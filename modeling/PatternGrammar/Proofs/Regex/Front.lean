import PatternGrammar.Proofs.Regex.Path

/-!
# Threads at one place

Following a thread reaches every instruction that it can get to without reading, and only those. An instruction that is
entered is marked as reached before the ones after it are followed, so loops that read nothing end; that none of them is
left out is what `Front.Grows` says.
-/

namespace PatternGrammar.Regex

def cursorAt (text : Text) (i : Nat) : Cursor :=
  ⟨i, text.before i, text[i]?⟩

namespace Front

/-- An instruction is reached, or there is none. -/
def Has (f : Front) (q : Nat) : Prop :=
  f.reached.getD q true = true

def unreached (f : Front) : Nat :=
  f.reached.count false

def reach (f : Front) (q : Nat) : Front :=
  ⟨f.reached.setIfInBounds q true, f.threads⟩

theorem has_reach {f : Front} {q r : Nat} : (f.reach q).Has r ↔ r = q ∨ f.Has r := by
  unfold Has reach
  simp only [Array.getD_eq_getD_getElem?, Array.getElem?_setIfInBounds]
  by_cases hqr : q = r
  · rw [if_pos hqr]
    by_cases hr : r < f.reached.size
    · simp [if_pos hr, hqr]
    · simp [if_neg hr, hqr]
  · rw [if_neg hqr]
    simp [Ne.symm hqr]

theorem unreached_reach {f : Front} {q : Nat} (h : ¬ f.Has q) : (f.reach q).unreached + 1 = f.unreached := by
  -- what is not there counts as reached, so `q` is there and was not
  have hq : q < f.reached.size := by
    refine Nat.lt_of_not_le fun hge => h ?_
    simp [Has, Array.getD_eq_getD_getElem?, Array.getElem?_eq_none hge]
  have hfalse : f.reached[q] = false := by
    simpa [Has, Array.getD_eq_getD_getElem?, Array.getElem?_eq_getElem hq] using h
  have hpos : 0 < f.reached.count false := by
    rw [Array.count_pos_iff, ← hfalse]
    exact Array.getElem_mem hq
  simp only [unreached, reach]
  rw [Array.setIfInBounds_def, dif_pos hq, Array.count_set hq, hfalse]
  simp
  omega

/-- An instruction is done with: what can be gone on to from it is reached too, and where a character is read or the
program accepts a thread waits. -/
def Settled (p : Program) (text : Text) (i : Nat) (f : Front) (q : Nat) : Prop :=
  match p.code[q]? with
  | some (.chars _) => ∃ t ∈ f.threads, t.place = q
  | some .accept => ∃ t ∈ f.threads, t.place = q
  | some (.jump target) => f.Has target
  | some (.branch first second) => f.Has first ∧ f.Has second
  | some (.mark _) => f.Has (q + 1)
  | some (.assertion a) => a.HoldsAt text i → f.Has (q + 1)
  | none => True

/-- One front comes out of another by following threads at a place of a text: nothing is lost, and what is new is done
with. -/
structure Grows (p : Program) (text : Text) (i : Nat) (f g : Front) : Prop where
  keeps : ∀ q, f.Has q → g.Has q
  threads : ∀ t ∈ f.threads, t ∈ g.threads
  unreached : g.unreached ≤ f.unreached
  settles : ∀ q, g.Has q → f.Has q ∨ g.Settled p text i q

namespace Grows

variable {p : Program} {text : Text} {i : Nat} {f g h : Front}

/-- What is done with stays so when the front grows. -/
theorem settled (hfg : f.Grows p text i g) {q : Nat} (hq : f.Settled p text i q) : g.Settled p text i q := by
  unfold Settled at hq ⊢
  split at hq
  · obtain ⟨t, ht, hplace⟩ := hq
    exact ⟨t, hfg.threads t ht, hplace⟩
  · obtain ⟨t, ht, hplace⟩ := hq
    exact ⟨t, hfg.threads t ht, hplace⟩
  · exact hfg.keeps _ hq
  · exact ⟨hfg.keeps _ hq.1, hfg.keeps _ hq.2⟩
  · exact hfg.keeps _ hq
  · exact fun hholds => hfg.keeps _ (hq hholds)
  · trivial

theorem refl (f : Front) : f.Grows p text i f where
  keeps _ hq := hq
  threads _ ht := ht
  unreached := Nat.le_refl _
  settles _ hq := .inl hq

theorem trans (hfg : f.Grows p text i g) (hgh : g.Grows p text i h) : f.Grows p text i h where
  keeps q hq := hgh.keeps q (hfg.keeps q hq)
  threads t ht := hgh.threads t (hfg.threads t ht)
  unreached := Nat.le_trans hgh.unreached hfg.unreached
  settles q hq := by
    rcases hgh.settles q hq with hg | hnew
    · exact (hfg.settles q hg).imp_right hgh.settled
    · exact .inr hnew

/-- One more thread takes nothing away. -/
theorem push (f : Front) (t : Thread) : f.Grows p text i ⟨f.reached, t :: f.threads⟩ where
  keeps _ hq := hq
  threads _ ht := List.mem_cons_of_mem t ht
  unreached := Nat.le_refl _
  settles _ hq := .inl hq

/-- An instruction is marked as reached at once, and done with when what follows it is. -/
theorem of_reach {q : Nat} (hnew : ¬ f.Has q) (hg : (f.reach q).Grows p text i g)
    (hsettled : g.Settled p text i q) : f.Grows p text i g where
  keeps r hr := hg.keeps r (has_reach.mpr (.inr hr))
  threads := hg.threads
  unreached := by
    have hle := hg.unreached
    have hreach := unreached_reach hnew
    omega
  settles r hr := by
    rcases hg.settles r hr with hr | hr
    · rcases has_reach.mp hr with rfl | hf
      · exact .inr hsettled
      · exact .inl hf
    · exact .inr hr

end Grows

/-- All that is reached is done with. -/
def Closed (p : Program) (text : Text) (i : Nat) (f : Front) : Prop :=
  ∀ q, f.Has q → f.Settled p text i q

theorem Grows.closed {p : Program} {text : Text} {i : Nat} {f g : Front}
    (hfg : f.Grows p text i g) (hf : f.Closed p text i) : g.Closed p text i := by
  intro q hq
  rcases hfg.settles q hq with hold | hnew
  · exact hfg.settled (hf q hold)
  · exact hnew

theorem closed_start (p : Program) (text : Text) (i : Nat) : (start p).Closed p text i := by
  intro q hq
  -- only places behind the code count as reached
  have hnone : p.code[q]? = none := by
    refine Array.getElem?_eq_none (Nat.le_of_not_lt fun hlt => ?_)
    simp [Has, start, Array.getD_eq_getD_getElem?, hlt] at hq
  unfold Settled
  rw [hnone]
  trivial

theorem unreached_start (p : Program) : (start p).unreached = p.code.size := by
  simp [unreached, start]

end Front

namespace Program

variable {p : Program} {text : Text} {i : Nat}

/-! ## Following a thread -/

theorem follow_has {cursor : Cursor} {fuel place : Nat} {marks : Marks} {f : Front}
    (hplace : f.Has place) : p.follow cursor fuel place marks f = f := by
  cases fuel with
  | zero => rfl
  | succ fuel => exact if_pos hplace

theorem follow_new {cursor : Cursor} {fuel place : Nat} {marks : Marks} {f : Front}
    (hplace : ¬ f.Has place) : p.follow cursor (fuel + 1) place marks f =
      match p.code[place]? with
      | none => f.reach place
      | some (.jump target) => p.follow cursor fuel target marks (f.reach place)
      | some (.branch first second) =>
        p.follow cursor fuel second marks (p.follow cursor fuel first marks (f.reach place))
      | some (.mark slot) =>
        p.follow cursor fuel (place + 1) ((slot, cursor.position) :: marks) (f.reach place)
      | some (.assertion a) =>
        if a.holds cursor.before cursor.after then p.follow cursor fuel (place + 1) marks (f.reach place)
        else f.reach place
      | some (.chars _) => ⟨(f.reach place).reached, ⟨place, marks⟩ :: (f.reach place).threads⟩
      | some .accept => ⟨(f.reach place).reached, ⟨place, marks⟩ :: (f.reach place).threads⟩ :=
  if_neg hplace

/-- With fuel for every instruction that is left, following a thread misses none. -/
theorem follow_grows {fuel place : Nat} {marks : Marks} {f : Front} (hfuel : f.unreached ≤ fuel) :
    f.Grows p text i (p.follow (cursorAt text i) fuel place marks f) ∧
      (p.follow (cursorAt text i) fuel place marks f).Has place := by
  induction fuel generalizing place marks f with
  | zero =>
    refine ⟨.refl f, ?_⟩
    by_cases hplace : f.Has place
    · exact hplace
    · have hreach := Front.unreached_reach hplace
      omega
  | succ fuel ih =>
    by_cases hplace : f.Has place
    · rw [follow_has hplace]
      exact ⟨.refl f, hplace⟩
    -- the instruction is marked before the ones after it are followed, with one less left to reach
    have hself : (f.reach place).Has place := Front.has_reach.mpr (.inl rfl)
    have hleft : (f.reach place).unreached ≤ fuel := by
      have hreach := Front.unreached_reach hplace
      omega
    suffices hgoal : ∃ g, p.follow (cursorAt text i) (fuel + 1) place marks f = g ∧
        (f.reach place).Grows p text i g ∧ g.Settled p text i place by
      obtain ⟨g, heq, hgrows, hsettled⟩ := hgoal
      rw [heq]
      exact ⟨.of_reach hplace hgrows hsettled, hgrows.keeps _ hself⟩
    refine ⟨_, follow_new hplace, ?_⟩
    unfold Front.Settled
    cases p.code[place]? with
    | none => exact ⟨.refl _, trivial⟩
    | some instruction =>
      cases instruction with
      | chars set => exact ⟨.push _ _, _, List.mem_cons_self, rfl⟩
      | accept => exact ⟨.push _ _, _, List.mem_cons_self, rfl⟩
      | jump target => exact ih hleft
      | branch first second =>
        -- the second is followed in the front that following the first has left
        obtain ⟨hgrows, hfirst⟩ := @ih first marks _ hleft
        obtain ⟨hgrows', hsecond⟩ := @ih second marks _ (Nat.le_trans hgrows.unreached hleft)
        exact ⟨hgrows.trans hgrows', hgrows'.keeps _ hfirst, hsecond⟩
      | mark slot => exact ih hleft
      | assertion a =>
        dsimp only
        by_cases hholds : a.holds (cursorAt text i).before (cursorAt text i).after = true
        · obtain ⟨hgrows, hnext⟩ := @ih (place + 1) marks _ hleft
          rw [if_pos hholds]
          exact ⟨hgrows, fun _ => hnext⟩
        · rw [if_neg hholds]
          exact ⟨.refl _, fun hyes => absurd hyes hholds⟩

/-- A thread that comes out of following another got there from it by steps that read nothing. -/
theorem reaches_of_mem_follow {fuel place : Nat} {marks : Marks} {f : Front} {t : Thread}
    (ht : t ∈ (p.follow (cursorAt text i) fuel place marks f).threads) :
    t ∈ f.threads ∨ p.Reaches text (place, ⟨i, marks⟩) (t.place, ⟨i, t.marks⟩) := by
  induction fuel generalizing place marks f with
  | zero => exact .inl ht
  | succ fuel ih =>
    by_cases hplace : f.Has place
    · rw [follow_has hplace] at ht
      exact .inl ht
    rw [follow_new hplace] at ht
    -- one step leads to what is followed next
    have hvia {next : Nat} {marks' : Marks} (hstep : p.Step text (place, ⟨i, marks⟩) (next, ⟨i, marks'⟩))
        (h : t ∈ (f.reach place).threads ∨ p.Reaches text (next, ⟨i, marks'⟩) (t.place, ⟨i, t.marks⟩)) :
        t ∈ f.threads ∨ p.Reaches text (place, ⟨i, marks⟩) (t.place, ⟨i, t.marks⟩) :=
      h.imp_right (Reaches.step hstep).trans
    have hwait (h : t ∈ ⟨place, marks⟩ :: f.threads) :
        t ∈ f.threads ∨ p.Reaches text (place, ⟨i, marks⟩) (t.place, ⟨i, t.marks⟩) := by
      rcases List.mem_cons.mp h with rfl | h
      · exact .inr (.refl _)
      · exact .inl h
    cases hcode : p.code[place]? with
    | none =>
      rw [hcode] at ht
      exact .inl ht
    | some instruction =>
      rw [hcode] at ht
      cases instruction <;> dsimp only at ht
      case chars set => exact hwait ht
      case accept => exact hwait ht
      case jump target => exact hvia (by simp only [Step, hcode]) (ih ht)
      case branch first second =>
        rcases ih ht with hfirst | hsecond
        · exact hvia (by simp only [Step, hcode, true_or]) (ih hfirst)
        · exact hvia (by simp only [Step, hcode, or_true]) (.inr hsecond)
      case mark slot => exact hvia (by simp only [Step, hcode]; rfl) (ih ht)
      case assertion a =>
        by_cases hholds : a.holds (cursorAt text i).before (cursorAt text i).after = true
        · rw [if_pos hholds] at ht
          exact hvia (by simp only [Step, hcode, true_and]; exact hholds) (ih ht)
        · rw [if_neg hholds] at ht
          exact .inl ht

end Program

end PatternGrammar.Regex
