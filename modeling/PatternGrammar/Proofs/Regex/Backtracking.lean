import PatternGrammar.Proofs.Regex.Layout
import PatternGrammar.Proofs.Regex.Ways

/-!
# Backtracking through a program

A program can be run by backtracking too: each branch is gone through to its end before the next one is tried. Run in
this way, the code of an expression finds the first way to match the expression that can be gone on from
(`Program.realizes_code`), if no loop of it comes back to where it was.
-/

namespace PatternGrammar.Regex

/-! ## Backtracking -/

namespace Program

variable {p : Program} {text : Text} {q i n : Nat} {x y : Option Spot}

/-- Runs a program by backtracking from an instruction and a place of a text to the first spot where it accepts. Each
call enters one more instruction; without fuel there is no answer. -/
def attempt (p : Program) (text : Text) : Nat → Nat → Nat → Option (Option Spot)
  | 0, _, _ => none
  | fuel + 1, q, i =>
    match p.code[q]? with
    | none => some none
    | some (.chars s) =>
      if text[i]?.any s.mem then p.attempt text fuel (q + 1) (i + 1) else some none
    | some (.assertion a) =>
      if a.holds (text.before i) text[i]? then p.attempt text fuel (q + 1) i else some none
    | some (.mark slot) => (p.attempt text fuel (q + 1) i).map (·.map (·.behind [(slot, i)]))
    | some (.jump target) => p.attempt text fuel target i
    | some (.branch first second) =>
      (p.attempt text fuel first i).bind fun x => (p.attempt text fuel second i).map fun y => x.or y
    | some .accept => some (some ⟨i, []⟩)

theorem attempt_succ (h : p.attempt text n q i = some x) : p.attempt text (n + 1) q i = some x := by
  induction n generalizing q i x with
  | zero => contradiction
  | succ n ih =>
    rw [attempt] at h ⊢
    cases hcode : p.code[q]? with
    | none =>
      rw [hcode] at h
      exact h
    | some instruction =>
      rw [hcode] at h
      cases instruction <;> simp only at h ⊢
      case chars s =>
        split at h
        · next hread =>
          rw [if_pos hread]
          exact ih h
        · next hread =>
          rw [if_neg hread]
          exact h
      case assertion a =>
        split at h
        · next hholds =>
          rw [if_pos hholds]
          exact ih h
        · next hholds =>
          rw [if_neg hholds]
          exact h
      case mark slot =>
        obtain ⟨y, hy, rfl⟩ := Option.map_eq_some_iff.mp h
        rw [ih hy]
        rfl
      case jump target => exact ih h
      case branch first second =>
        obtain ⟨y, hy, hrest⟩ := Option.bind_eq_some_iff.mp h
        obtain ⟨z, hz, rfl⟩ := Option.map_eq_some_iff.mp hrest
        rw [ih hy, ih hz]
        rfl
      case accept => exact h

theorem attempt_eq_none (h : p.attempt text (n + 1) q i = none) : p.attempt text n q i = none := by
  cases hn : p.attempt text n q i with
  | none => rfl
  | some y =>
    rw [attempt_succ hn] at h
    contradiction

/-- More fuel changes nothing that backtracking has given. -/
theorem attempt_mono {m : Nat} (h : p.attempt text n q i = some x) (hle : n ≤ m) : p.attempt text m q i = some x := by
  induction hle with
  | refl => exact h
  | step _ ih => exact attempt_succ ih

/-- Backtracking ends with `x`. -/
def Yields (p : Program) (text : Text) (q i : Nat) (x : Option Spot) : Prop :=
  ∃ n, p.attempt text n q i = some x

/-- Backtracking ends in one way at most. -/
theorem Yields.unique (hx : p.Yields text q i x) (hy : p.Yields text q i y) : x = y := by
  obtain ⟨m, hm⟩ := hx
  obtain ⟨n, hn⟩ := hy
  have hm' := attempt_mono hm (Nat.le_max_left m n)
  have hn' := attempt_mono hn (Nat.le_max_right m n)
  exact Option.some.inj (hm'.symm.trans hn')

theorem yields_accept (h : p.code[q]? = some .accept) : p.Yields text q i (some ⟨i, []⟩) :=
  ⟨1, by simp only [attempt, h]⟩

/-- An instruction that reads goes on behind the character, or yields nothing. -/
theorem yields_read {s : CharSet} (h : p.code[q]? = some (.chars s))
    (hnext : text[i]?.any s.mem = true → p.Yields text (q + 1) (i + 1) x)
    (hstop : text[i]?.any s.mem = false → x = none) : p.Yields text q i x := by
  cases hread : text[i]?.any s.mem with
  | true =>
    obtain ⟨n, hn⟩ := hnext hread
    exact ⟨n + 1, by simp only [attempt, h, hread, if_true, hn]⟩
  | false => exact ⟨1, by simp only [attempt, h, hread, hstop hread, Bool.false_eq_true, if_false]⟩

theorem yields_assert {a : Assertion} (h : p.code[q]? = some (.assertion a))
    (hnext : a.holds (text.before i) text[i]? = true → p.Yields text (q + 1) i x)
    (hstop : a.holds (text.before i) text[i]? = false → x = none) : p.Yields text q i x := by
  cases hholds : a.holds (text.before i) text[i]? with
  | true =>
    obtain ⟨n, hn⟩ := hnext hholds
    exact ⟨n + 1, by simp only [attempt, h, hholds, if_true, hn]⟩
  | false => exact ⟨1, by simp only [attempt, h, hholds, hstop hholds, Bool.false_eq_true, if_false]⟩

theorem yields_mark {slot : Nat} (h : p.code[q]? = some (.mark slot))
    (hnext : p.Yields text (q + 1) i x) : p.Yields text q i (x.map (·.behind [(slot, i)])) := by
  obtain ⟨n, hn⟩ := hnext
  exact ⟨n + 1, by simp only [attempt, h, hn, Option.map_some]⟩

theorem yields_jump {target : Nat} (h : p.code[q]? = some (.jump target))
    (hnext : p.Yields text target i x) : p.Yields text q i x := by
  obtain ⟨n, hn⟩ := hnext
  exact ⟨n + 1, by simp only [attempt, h, hn]⟩

theorem yields_branch {first second : Nat} (h : p.code[q]? = some (.branch first second))
    (hfirst : p.Yields text first i x) (hsecond : p.Yields text second i y) : p.Yields text q i (x.or y) := by
  obtain ⟨m, hm⟩ := hfirst
  obtain ⟨n, hn⟩ := hsecond
  -- the fuel of the one that takes longer is enough for both
  have hm' := attempt_mono hm (Nat.le_max_left m n)
  have hn' := attempt_mono hn (Nat.le_max_right m n)
  exact ⟨max m n + 1, by simp only [attempt, h, hm', hn', Option.bind_some, Option.map_some]⟩

/-- The branch of a repetition prefers one more round if it is greedy, and else to leave. -/
theorem yields_loop {greedy : Bool} {again leave : Nat} {v w : Ways} {next : Nat → Option Spot}
    (h : p.code[q]? = some (.loop greedy again leave)) (hagain : p.Yields text again i (Ways.first? (v i) next))
    (hleave : p.Yields text leave i (Ways.first? (w i) next)) :
    p.Yields text q i (Ways.first? (Ways.prefer greedy v w i) next) := by
  cases greedy with
  | true =>
    rw [Ways.prefer, if_pos rfl, Ways.first?_orElse]
    exact yields_branch h hagain hleave
  | false =>
    rw [Ways.prefer, if_neg Bool.false_ne_true, Ways.first?_orElse]
    exact yields_branch h hleave hagain

end Program

/-! ## Rounds that read something -/

namespace Ways

variable {text : Text} {w : Ways} {greedy : Bool} {i : Nat}

/-- Every round ends behind its start, and within the text. -/
def Advances (text : Text) (w : Ways) : Prop :=
  ∀ i, i ≤ text.length → ∀ s ∈ w i, i < s.position ∧ s.position ≤ text.length

theorem Advances.eq_nil (hw : w.Advances text) (hi : i ≤ text.length) (hend : text.length - i ≤ 0) : w i = [] := by
  rw [List.eq_nil_iff_forall_not_mem]
  intro s hs
  have hahead := hw i hi s hs
  omega

/-- There is one round at most for each character that is left, so to allow more of them makes no difference. -/
theorem upTo_eq (hw : w.Advances text) (hi : i ≤ text.length) {m n : Nat} (hm : text.length - i ≤ m)
    (hn : text.length - i ≤ n) : w.upTo greedy m i = w.upTo greedy n i := by
  induction m generalizing n i with
  | zero => exact (upTo_of_nil (hw.eq_nil hi hm) greedy n).symm
  | succ m ih =>
    cases n with
    | zero => exact upTo_of_nil (hw.eq_nil hi hn) greedy (m + 1)
    | succ n =>
      -- behind a round less of the text is left, so the bounds may shrink by one
      rw [upTo, upTo]
      refine prefer_congr (andThen_congr fun s hs => ?_)
      obtain ⟨hlt, hle⟩ := hw i hi s hs
      exact ih hle (by omega) (by omega)

/-- Any number of rounds are one and then any number, or none. -/
theorem many_eq (hw : w.Advances text) (hi : i ≤ text.length) :
    w.many text greedy i = prefer greedy (w.andThen (w.many text greedy)) stay i := by
  rw [many, upTo]
  refine prefer_congr (andThen_congr fun s hs => ?_)
  obtain ⟨hlt, hle⟩ := hw i hi s hs
  exact upTo_eq hw hle (by omega) (Nat.le_succ _)

end Ways

namespace Program

variable {p : Program} {text : Text} {a b c : Nat} {v w : Ways}

/-- From `a` backtracking takes the first of some ways that can be gone on from at `b`. -/
def Realizes (p : Program) (text : Text) (a b : Nat) (w : Ways) : Prop :=
  ∀ i next, i ≤ text.length →
    (∀ s ∈ w i, s.position ≤ text.length → p.Yields text b s.position (next s.position)) →
    p.Yields text a i (Ways.first? (w i) next)

theorem realizes_stay (a : Nat) : p.Realizes text a a .stay := by
  intro i next hi hnext
  rw [Ways.first?_stay]
  exact hnext ⟨i, []⟩ (Ways.mem_stay.mpr rfl) hi

theorem realizes_read {s : CharSet} (h : p.code[a]? = some (.chars s)) :
    p.Realizes text a (a + 1) (.read text s.mem) := by
  intro i next hi hnext
  unfold Ways.read at *
  refine yields_read h (fun hread => ?_) (fun hread => ?_)
  · simp only [hread, if_true] at hnext ⊢
    obtain ⟨c, hc, -⟩ := (Option.any_eq_true _ _).mp hread
    have hlt := (List.getElem?_eq_some_iff.mp hc).1
    rw [Ways.first?_singleton]
    simpa using hnext _ (List.mem_singleton_self _) hlt
  · simp only [hread, Bool.false_eq_true, if_false]
    rfl

theorem realizes_assert {x : Assertion} (h : p.code[a]? = some (.assertion x)) :
    p.Realizes text a (a + 1) (.assert text x) := by
  intro i next hi hnext
  unfold Ways.assert at *
  refine yields_assert h (fun hholds => ?_) (fun hholds => ?_)
  · simp only [hholds, if_true] at hnext ⊢
    rw [Ways.first?_singleton]
    simpa using hnext _ (List.mem_singleton_self _) hi
  · simp only [hholds, Bool.false_eq_true, if_false]
    rfl

theorem realizes_mark {slot : Nat} (h : p.code[a]? = some (.mark slot)) : p.Realizes text a (a + 1) (.mark slot) := by
  intro i next hi hnext
  rw [Ways.mark, Ways.first?_singleton]
  exact yields_mark h (hnext _ (List.mem_singleton_self _) hi)

/-- Code in a row takes the ways of the first part, and at each end those of the second. -/
theorem Realizes.andThen (hv : p.Realizes text a b v) (hw : p.Realizes text b c w) :
    p.Realizes text a c (v.andThen w) := by
  intro i next hi hnext
  rw [Ways.first?_andThen]
  refine hv i _ hi fun s hs hle => hw s.position next hle fun t ht hle' => ?_
  exact hnext (t.behind s.marks) (Ways.mem_andThen.mpr ⟨s, hs, t, ht, rfl⟩) hle'

theorem Realizes.jump {d : Nat} (hw : p.Realizes text a b w) (h : p.code[b]? = some (.jump d)) :
    p.Realizes text a d w :=
  fun i next hi hnext => hw i next hi fun s hs hle => yields_jump h (hnext s hs hle)

theorem Realizes.orElse {q : Nat} (h : p.code[q]? = some (.branch a b)) (hv : p.Realizes text a c v)
    (hw : p.Realizes text b c w) : p.Realizes text q c (v.orElse w) := by
  intro i next hi hnext
  rw [Ways.first?_orElse]
  refine yields_branch h (hv i next hi fun s hs => ?_) (hw i next hi fun s hs => ?_)
  · exact hnext s (List.mem_append_left _ hs)
  · exact hnext s (List.mem_append_right _ hs)

theorem Realizes.prefer {q : Nat} {greedy : Bool} (h : p.code[q]? = some (.loop greedy a b))
    (hv : p.Realizes text a c v) (hw : p.Realizes text b c w) : p.Realizes text q c (.prefer greedy v w) := by
  cases greedy with
  | true => exact hv.orElse h hw
  | false => exact hw.orElse h hv

theorem Realizes.congr (hv : p.Realizes text a b v) (h : ∀ i, i ≤ text.length → v i = w i) : p.Realizes text a b w := by
  intro i next hi hnext
  rw [← h i hi] at hnext ⊢
  exact hv i next hi hnext

/-- Copies of one code in a row take its ways one after the other. -/
theorem realizes_copies {width m n k : Nat} (hcopy : ∀ k < n, p.Realizes text (a + k * width) (a + (k + 1) * width) w)
    (hn : k + m = n) : p.Realizes text (a + k * width) (a + n * width) (w.copies m) := by
  induction m generalizing k with
  | zero =>
    rw [← hn]
    exact realizes_stay _
  | succ m ih => exact (hcopy k (by omega)).andThen (ih (by omega))

/-- Optional copies of code in a row, from each of which one can leave behind the last. -/
theorem realizes_upTo {greedy : Bool} {width m n k : Nat}
    (hloop : ∀ k < n, p.code[a + k * width]? = some (.loop greedy (a + k * width + 1) (a + n * width)))
    (hcopy : ∀ k < n, p.Realizes text (a + k * width + 1) (a + (k + 1) * width) w) (hn : k + m = n) :
    p.Realizes text (a + k * width) (a + n * width) (w.upTo greedy m) := by
  induction m generalizing k with
  | zero =>
    rw [← hn]
    exact realizes_stay _
  | succ m ih =>
    exact Realizes.prefer (hloop k (by omega)) ((hcopy k (by omega)).andThen (ih (by omega))) (realizes_stay _)

/-- One round of a loop and then any number: behind the round the program goes on to another one or leaves. -/
theorem realizes_rounds {greedy : Bool} {first last leave : Nat} (hw : w.Advances text)
    (hbody : p.Realizes text first last w)
    (hback : ∀ i (v : Ways) next, p.Yields text first i (Ways.first? (v i) next) →
      p.Yields text leave i (next i) →
      p.Yields text last i (Ways.first? (Ways.prefer greedy v .stay i) next)) :
    p.Realizes text first leave (w.andThen (w.many text greedy)) := by
  intro i
  -- a round gets on, so there is less of the text left behind it
  induction hlen : text.length - i using Nat.strongRecOn generalizing i with
  | ind n ih =>
    intro next hi hnext
    rw [Ways.first?_andThen]
    refine hbody i _ hi fun s hs hle => ?_
    have hlt := (hw i hi s hs).1
    have hrest (t : Spot) (ht : t ∈ w.many text greedy s.position) :=
      hnext (t.behind s.marks) (Ways.mem_andThen.mpr ⟨s, hs, t, ht, rfl⟩)
    rw [Ways.many_eq hw hle]
    refine hback s.position _ next (ih (text.length - s.position) (by omega) s.position rfl next hle
      fun t ht => hrest t ?_) ?_
    · rw [Ways.many_eq hw hle]
      exact Ways.mem_prefer.mpr (.inl ht)
    · exact hrest ⟨s.position, []⟩ (Ways.mem_many_self text greedy w s.position) hle

end Program

/-! ## The code of an expression -/

/-- No loop without an upper bound has a body that can match the empty text somewhere in a text. -/
def Expr.LoopsAdvance (text : Text) : Expr → Prop
  | empty | chars _ | assertion _ => True
  | cat e f | alt e f => e.LoopsAdvance text ∧ f.LoopsAdvance text
  | group _ e => e.LoopsAdvance text
  | repetition _ max _ e =>
    (max = none → ∀ i, i ≤ text.length → ¬ e.Matches text i i) ∧ e.LoopsAdvance text

theorem Expr.advances_ways {text : Text} {e : Expr} (hwf : e.WellFormed)
    (h : ∀ i, i ≤ text.length → ¬ e.Matches text i i) : (e.ways text).Advances text := by
  intro i hi s hs
  have hmatch := matches_of_mem_ways hwf hs
  obtain ⟨hle, hlength⟩ := hmatch.ahead
  refine ⟨Nat.lt_of_le_of_ne hle fun heq => ?_, hlength hi⟩
  rw [← heq] at hmatch
  exact h i hi hmatch

namespace Program

variable {p : Program} {text : Text}

/-- The code of an expression takes the first way to match the expression that can be gone on from behind the code. -/
theorem realizes_code {e : Expr} (hwf : e.WellFormed) (hloops : e.LoopsAdvance text) {place : Nat}
    (h : p.Contains place (e.code place)) : p.Realizes text place (place + e.size) (e.ways text) := by
  induction e generalizing place with
  | empty => exact realizes_stay place
  | chars s => exact realizes_read h.head
  | assertion a => exact realizes_assert h.head
  | cat e f ihe ihf =>
    obtain ⟨he, hf⟩ := h.cat
    rw [Expr.size, ← Nat.add_assoc]
    exact (ihe hwf.1 hloops.1 he).andThen (ihf hwf.2 hloops.2 hf)
  | alt e f ihe ihf =>
    obtain ⟨hbranch, he, hjump, hf⟩ := h.alt
    have hfirst := (ihe hwf.1 hloops.1 he).jump hjump
    have hsecond := ihf hwf.2 hloops.2 hf
    rw [show place + (Expr.alt e f).size = place + e.size + 2 + f.size by rw [Expr.size]; omega]
    exact hfirst.orElse hbranch hsecond
  | group n e ih =>
    obtain ⟨hstart, he, hstop⟩ := h.group
    have hbody := ih hwf.2 hloops he
    rw [show place + (Expr.group n e).size = place + 1 + e.size + 1 by rw [Expr.size]; omega]
    exact (realizes_mark hstart).andThen (hbody.andThen (realizes_mark hstop))
  | repetition min max greedy e ih =>
    have hbody := fun place => @ih hwf.2 hloops.2 place
    cases max with
    | some max =>
      obtain ⟨hcopies, hoptional⟩ := h.counted
      -- a copy that is needed takes `e.size` places, an optional one takes one more for its branch
      have hneeded : p.Realizes text (place + 0 * e.size) (place + min * e.size) ((e.ways text).copies min) := by
        refine realizes_copies (fun k hk => ?_) (Nat.zero_add min)
        rw [Nat.succ_mul, ← Nat.add_assoc]
        exact hbody _ (hcopies k hk)
      have hmore : p.Realizes text (place + min * e.size + 0 * (e.size + 1))
          (place + min * e.size + (max - min) * (e.size + 1)) ((e.ways text).upTo greedy (max - min)) := by
        refine realizes_upTo (fun k hk => (hoptional k hk).1) (fun k hk => ?_) (Nat.zero_add (max - min))
        have hcopy := hbody _ (hoptional k hk).2
        rw [Nat.succ_mul, ← Nat.add_assoc, ← Nat.add_assoc, Nat.add_right_comm _ e.size 1]
        exact hcopy
      rw [Nat.zero_mul, Nat.add_zero] at hneeded hmore
      rw [Expr.size, ← Nat.add_assoc]
      exact hneeded.andThen hmore
    | none =>
      have hadv := Expr.advances_ways hwf.2 (hloops.1 rfl)
      cases min with
      | zero =>
        obtain ⟨hhead, he, hback⟩ := h.star
        have hrounds : p.Realizes text (place + 1) (place + e.size + 2)
            ((e.ways text).andThen ((e.ways text).many text greedy)) := by
          refine realizes_rounds hadv (hbody _ he) fun i v next hagain hleave => ?_
          have hleave' : p.Yields text (place + e.size + 2) i (Ways.first? (Ways.stay i) next) := by
            rw [Ways.first?_stay]
            exact hleave
          -- the loop is entered again by a branch of its own, or by the one in front of it
          rcases hback with hloop | hjump
          · exact yields_loop hloop hagain hleave'
          · exact yields_jump hjump (yields_loop hhead hagain hleave')
        have hmany := (hrounds.prefer hhead (realizes_stay _)).congr
          fun i hi => (Ways.many_eq hadv hi).symm
        exact (realizes_stay place).andThen hmany
      | succ min =>
        obtain ⟨hcopies, hloop⟩ := h.plus
        -- the loop goes round the last copy, so that copy is the first of its rounds
        have hneeded : p.Realizes text (place + 0 * e.size) (place + min * e.size)
            ((e.ways text).copies min) := by
          refine realizes_copies (fun k hk => ?_) (Nat.zero_add min)
          rw [Nat.succ_mul, ← Nat.add_assoc]
          exact hbody _ (hcopies k (by omega))
        have hlast := hbody _ (hcopies min (Nat.lt_succ_self min))
        rw [Nat.add_assoc, ← Nat.succ_mul] at hlast
        have hrounds := realizes_rounds hadv hlast fun i v next hagain hleave =>
          yields_loop hloop hagain (by rw [Ways.first?_stay]; exact hleave)
        rw [Nat.zero_mul, Nat.add_zero] at hneeded
        rw [Expr.ways, Ways.times, Ways.copies_succ, Ways.andThen_assoc, Expr.size]
        exact hneeded.andThen hrounds

end Program

end PatternGrammar.Regex
