import PatternGrammar.Proofs.Regex.Layout
import PatternGrammar.Proofs.Regex.WellFormed

/-!
# From paths to matches

A path through the code of an expression comes out behind it, and the expression matches between the two spots
(`Program.confines`). Paths are counted by their steps, so that those around a loop get shorter with every round.
-/

namespace PatternGrammar.Regex.Program

variable {p : Program} {text : Text} {e f : Expr}

/-- Every path from `first` to `q` comes by `last`, and `r` holds between its spots at the two. -/
def Crosses (p : Program) (text : Text) (q : Nat) (r : Spot → Spot → Prop) (first last : Nat) : Prop :=
  ∀ n s t, Times (p.Step text) n (first, s) (q, t) →
    ∃ u k, k ≤ n ∧ r s u ∧ Times (p.Step text) k (last, u) (q, t)

variable {q : Nat}

/-- A path that is not yet at its end has a first step. -/
theorem exists_step {n first : Nat} {s t : Spot} (hne : first ≠ q) (h : Times (p.Step text) n (first, s) (q, t)) :
    ∃ b m, n = m + 1 ∧ p.Step text (first, s) b ∧ Times (p.Step text) m b (q, t) := by
  cases n with
  | zero => exact absurd (congrArg Prod.fst h) hne
  | succ m =>
    obtain ⟨b, hfirst, hrest⟩ := h
    exact ⟨b, m, rfl, hfirst, hrest⟩

/-- Whatever crosses two stretches of code in a row crosses both. -/
theorem Crosses.trans {r r' : Spot → Spot → Prop} {a b c : Nat} (hab : p.Crosses text q r a b)
    (hbc : p.Crosses text q r' b c) : p.Crosses text q (fun s t => ∃ u, r s u ∧ r' u t) a c := by
  intro n s t h
  obtain ⟨u, k, hk, hsu, hu⟩ := hab n s t h
  obtain ⟨v, l, hl, huv, hv⟩ := hbc k u t hu
  exact ⟨v, l, Nat.le_trans hl hk, ⟨u, hsu, huv⟩, hv⟩

theorem Crosses.mono {r r' : Spot → Spot → Prop} {a b : Nat} (hrr : ∀ s t, r s t → r' s t)
    (h : p.Crosses text q r a b) : p.Crosses text q r' a b := by
  intro n s t hn
  obtain ⟨u, k, hk, hsu, hu⟩ := h n s t hn
  exact ⟨u, k, hk, hrr s u hsu, hu⟩

/-- An instruction that can only go on to `b` crosses to it. -/
theorem crosses_of_step {r : Spot → Spot → Prop} {a b : Nat} (hne : a ≠ q)
    (hstep : ∀ s c, p.Step text (a, s) c → c.1 = b ∧ r s c.2) : p.Crosses text q r a b := by
  intro n s t h
  obtain ⟨⟨c, u⟩, m, rfl, hfirst, hrest⟩ := exists_step hne h
  obtain ⟨rfl, hr⟩ := hstep s _ hfirst
  exact ⟨u, m, Nat.le_succ m, hr, hrest⟩

/-- Copies in a row are crossed one after the other. -/
theorem crosses_copies {r : Spot → Spot → Prop} {place width j m n : Nat}
    (hcopy : ∀ k < n, p.Crosses text q r (place + k * width) (place + (k + 1) * width)) (hn : j + m = n) :
    p.Crosses text q (Times r m) (place + j * width) (place + n * width) := by
  induction m generalizing j with
  | zero =>
    intro n' s t h
    rw [← hn]
    exact ⟨s, n', Nat.le_refl n', rfl, h⟩
  | succ m ih => exact (hcopy j (by omega)).trans (ih (by omega))

/-- The paths around a loop get shorter with every round, so that they leave it in the end. -/
theorem crosses_loop {r : Spot → Spot → Prop} {first last leave : Nat}
    (hbody : p.Crosses text q r first last)
    (hback : ∀ n s t, Times (p.Step text) n (last, s) (q, t) → ∃ k, k < n ∧
      (Times (p.Step text) k (first, s) (q, t) ∨ Times (p.Step text) k (leave, s) (q, t))) :
    p.Crosses text q (fun s t => ∃ m, Times r (m + 1) s t) first leave := by
  intro n
  -- every round takes at least the step back, so fewer are left for the rounds after it
  induction n using Nat.strongRecOn with
  | ind n ih =>
    intro s t h
    obtain ⟨u, k, hk, hsu, hu⟩ := hbody n s t h
    obtain ⟨l, hl, hagain | hleave⟩ := hback k u t hu
    · obtain ⟨v, l', hl', ⟨m, huv⟩, hv⟩ := ih l (by omega) u t hagain
      exact ⟨v, l', by omega, ⟨m + 1, u, hsu, huv⟩, hv⟩
    · exact ⟨u, l, by omega, ⟨0, u, hsu, rfl⟩, hleave⟩

/-- Optional copies are crossed as long as the branches go on, and left at once for the end. -/
theorem crosses_optional {r : Spot → Spot → Prop} {place width leave j m n : Nat} {greedy : Bool} (hwidth : 0 < width)
    (hleave : leave = place + n * width) (hq : leave ≤ q)
    (hbranch : ∀ k < n, p.code[place + k * width]? = some (.loop greedy (place + k * width + 1) leave))
    (hcopy : ∀ k < n, p.Crosses text q r (place + k * width + 1) (place + (k + 1) * width)) (hn : j + m = n) :
    p.Crosses text q (fun s t => ∃ l, l ≤ m ∧ Times r l s t) (place + j * width) leave := by
  induction m generalizing j with
  | zero =>
    intro n' s t h
    have hj : j = n := hn
    rw [hj, ← hleave] at h
    exact ⟨s, n', Nat.le_refl n', ⟨0, Nat.le_refl 0, rfl⟩, h⟩
  | succ m ih =>
    intro n' s t h
    have hj : j < n := by omega
    -- the branch is before the end of the path: there is a step from it
    have hne : place + j * width ≠ q := by
      have hlt : j * width < n * width := Nat.mul_lt_mul_of_pos_right hj hwidth
      omega
    obtain ⟨b, k, rfl, hfirst, hrest⟩ := exists_step hne h
    rcases (step_loop (hbranch j hj)).mp hfirst with rfl | rfl
    · obtain ⟨u, l, hl, hsu, hu⟩ := hcopy j hj k s t hrest
      obtain ⟨v, l', hl', ⟨i, hi, huv⟩, hv⟩ := ih (by omega) l u t hu
      exact ⟨v, l', by omega, ⟨i + 1, by omega, u, hsu, huv⟩, hv⟩
    · exact ⟨s, k, Nat.le_succ k, ⟨0, Nat.zero_le _, rfl⟩, hrest⟩

/-! ## The code of each expression -/

/-- The code of an expression, wherever it stands before `q`, lets paths to `q` pass only as the expression matches. -/
def Confines (p : Program) (text : Text) (q : Nat) (e : Expr) : Prop :=
  ∀ place, place + e.size ≤ q → p.Contains place (e.code place) →
    p.Crosses text q (e.Leads text) place (place + e.size)

theorem confines_chars (set : CharSet) : p.Confines text q (.chars set) := by
  intro place hq hcode
  rw [Expr.size] at hq ⊢
  refine crosses_of_step (by omega) fun s c hc => ?_
  simp only [Step, hcode.head] at hc
  exact hc

theorem confines_assertion (a : Assertion) : p.Confines text q (.assertion a) := by
  intro place hq hcode
  rw [Expr.size] at hq ⊢
  refine crosses_of_step (by omega) fun s c hc => ?_
  simp only [Step, hcode.head] at hc
  obtain ⟨rfl, hholds⟩ := hc
  exact ⟨rfl, rfl, hholds⟩

theorem confines_cat (he : p.Confines text q e) (hf : p.Confines text q f) : p.Confines text q (.cat e f) := by
  intro place hq hcode
  obtain ⟨hleft, hright⟩ := hcode.cat
  rw [Expr.size, ← Nat.add_assoc] at hq ⊢
  exact (he place (by omega) hleft).trans (hf _ hq hright)

theorem confines_alt (he : p.Confines text q e) (hf : p.Confines text q f) : p.Confines text q (.alt e f) := by
  intro place hq hcode
  obtain ⟨hbranch, hleft, hjump, hright⟩ := hcode.alt
  have hend : place + (Expr.alt e f).size = place + e.size + 2 + f.size := by
    rw [Expr.size]
    omega
  rw [hend] at hq ⊢
  have hskip : p.Crosses text q Eq (place + 1 + e.size) (place + e.size + 2 + f.size) := by
    refine crosses_of_step (by omega) fun s c hc => ?_
    simp only [Step, hjump] at hc
    exact ⟨congrArg Prod.fst hc, (congrArg Prod.snd hc).symm⟩
  intro n s t h
  obtain ⟨b, k, rfl, hfirst, hrest⟩ := exists_step (by omega) h
  simp only [Step, hbranch] at hfirst
  rcases hfirst with rfl | rfl
  · obtain ⟨u, l, hl, ⟨v, hsv, rfl⟩, hu⟩ := ((he _ (by omega) hleft).trans hskip) k s t hrest
    exact ⟨v, l, by omega, .inl hsv, hu⟩
  · obtain ⟨u, l, hl, hsu, hu⟩ := hf _ hq hright k s t hrest
    exact ⟨u, l, by omega, .inr hsu, hu⟩

theorem confines_group (n : Nat) (he : p.Confines text q e) : p.Confines text q (.group n e) := by
  intro place hq hcode
  obtain ⟨hopen, hbody, hclose⟩ := hcode.group
  have hend : place + (Expr.group n e).size = place + 1 + e.size + 1 := by
    rw [Expr.size]
    omega
  rw [hend] at hq ⊢
  have henter : p.Crosses text q (fun s t => t = s.note (2 * n)) place (place + 1) := by
    refine crosses_of_step (by omega) fun s c hc => ?_
    simp only [Step, hopen] at hc
    exact ⟨congrArg Prod.fst hc, congrArg Prod.snd hc⟩
  have hleave : p.Crosses text q (fun s t => t = s.note (2 * n + 1)) (place + 1 + e.size)
      (place + 1 + e.size + 1) := by
    refine crosses_of_step (by omega) fun s c hc => ?_
    simp only [Step, hclose] at hc
    exact ⟨congrArg Prod.fst hc, congrArg Prod.snd hc⟩
  refine (henter.trans ((he _ (by omega) hbody).trans hleave)).mono ?_
  rintro s t ⟨_, rfl, u, hu, rfl⟩
  exact ⟨u, hu, rfl⟩

/-! ## Repetitions -/

/-- One of some copies in a row. -/
theorem Confines.copy (he : p.Confines text q e) {place k : Nat} (hq : place + (k + 1) * e.size ≤ q)
    (hcode : p.Contains (place + k * e.size) (e.code (place + k * e.size))) :
    p.Crosses text q (e.Leads text) (place + k * e.size) (place + (k + 1) * e.size) := by
  rw [Nat.succ_mul, ← Nat.add_assoc] at hq ⊢
  exact he _ hq hcode

/-- The first `n` of some copies in a row. -/
theorem Confines.copies (he : p.Confines text q e) {place n : Nat} (hq : place + n * e.size ≤ q)
    (hcode : ∀ k < n, p.Contains (place + k * e.size) (e.code (place + k * e.size))) :
    p.Crosses text q (Times (e.Leads text) n) place (place + n * e.size) := by
  have hcopy (k : Nat) (hk : k < n) :
      p.Crosses text q (e.Leads text) (place + k * e.size) (place + (k + 1) * e.size) := by
    have hle : (k + 1) * e.size ≤ n * e.size := Nat.mul_le_mul_right _ hk
    exact he.copy (by omega) (hcode k hk)
  have hcross := crosses_copies hcopy (Nat.zero_add n)
  rw [Nat.zero_mul, Nat.add_zero] at hcross
  exact hcross

/-- Paths through a star go through its body any number of times; where the body may match nothing, the second branch
stands for the first. -/
theorem confines_star (greedy : Bool) (he : p.Confines text q e) : p.Confines text q (.repetition 0 none greedy e) := by
  intro place hq hcode
  obtain ⟨hloop, hbody, hback⟩ := hcode.star
  have hend : place + (Expr.repetition 0 none greedy e).size = place + e.size + 2 := rfl
  rw [hend] at hq ⊢
  have hround : p.Crosses text q (fun s t => ∃ m, Times (e.Leads text) (m + 1) s t)
      (place + 1) (place + e.size + 2) := by
    refine crosses_loop (he _ (by omega) hbody) fun n s t h => ?_
    obtain ⟨b, m, rfl, hfirst, hrest⟩ := exists_step (by omega) h
    rcases hback with hback | hback
    · rcases (step_loop hback).mp hfirst with rfl | rfl
      · exact ⟨m, by omega, .inl hrest⟩
      · exact ⟨m, by omega, .inr hrest⟩
    · -- the jump goes to the first branch, which is one step more
      simp only [Step, hback] at hfirst
      obtain ⟨c, l, rfl, hsecond, hrest⟩ := exists_step (by omega) (hfirst ▸ hrest)
      rcases (step_loop hloop).mp hsecond with rfl | rfl
      · exact ⟨l, by omega, .inl hrest⟩
      · exact ⟨l, by omega, .inr hrest⟩
  intro n s t h
  obtain ⟨b, k, rfl, hfirst, hrest⟩ := exists_step (by omega) h
  rcases (step_loop hloop).mp hfirst with rfl | rfl
  · obtain ⟨u, l, hl, ⟨m, hsu⟩, hu⟩ := hround k s t hrest
    exact ⟨u, l, by omega, ⟨m + 1, ⟨Nat.zero_le _, by simp⟩, hsu⟩, hu⟩
  · exact ⟨s, k, Nat.le_succ k, ⟨0, ⟨Nat.le_refl 0, by simp⟩, rfl⟩, hrest⟩

theorem confines_plus (min : Nat) (greedy : Bool) (he : p.Confines text q e) :
    p.Confines text q (.repetition (min + 1) none greedy e) := by
  intro place hq hcode
  obtain ⟨hcopies, hloop⟩ := hcode.plus
  rw [Expr.size, ← Nat.add_assoc] at hq ⊢
  have hle : min * e.size ≤ (min + 1) * e.size := Nat.mul_le_mul_right _ (by omega)
  have hneeded := he.copies (by omega) fun k hk => hcopies k (Nat.lt_succ_of_lt hk)
  have hround : p.Crosses text q (fun s t => ∃ m, Times (e.Leads text) (m + 1) s t)
      (place + min * e.size) (place + (min + 1) * e.size + 1) := by
    refine crosses_loop (he.copy (by omega) (hcopies min (by omega))) fun n s t h => ?_
    obtain ⟨b, m, rfl, hfirst, hrest⟩ := exists_step (by omega) h
    rcases (step_loop hloop).mp hfirst with rfl | rfl
    · exact ⟨m, by omega, .inl hrest⟩
    · exact ⟨m, by omega, .inr hrest⟩
  refine (hneeded.trans hround).mono ?_
  rintro s t ⟨u, hsu, m, hut⟩
  exact ⟨min + (m + 1), ⟨by omega, by simp⟩, hsu.add hut⟩

/-- An upper bound below the lower one would not stop the code from matching. -/
theorem confines_counted {min max : Nat} (greedy : Bool) (hle : min ≤ max)
    (he : p.Confines text q e) : p.Confines text q (.repetition min (some max) greedy e) := by
  intro place hq hcode
  obtain ⟨hcopies, hoptional⟩ := hcode.counted
  rw [Expr.size, ← Nat.add_assoc] at hq ⊢
  have hneeded := he.copies (by omega) hcopies
  have hcopy (k : Nat) (hk : k < max - min) :
      p.Crosses text q (e.Leads text) (place + min * e.size + k * (e.size + 1) + 1)
        (place + min * e.size + (k + 1) * (e.size + 1)) := by
    have hend : place + min * e.size + (k + 1) * (e.size + 1) =
        place + min * e.size + k * (e.size + 1) + 1 + e.size := by
      rw [Nat.succ_mul]
      omega
    have hbefore : (k + 1) * (e.size + 1) ≤ (max - min) * (e.size + 1) := Nat.mul_le_mul_right _ hk
    rw [hend]
    exact he _ (by omega) (hoptional k hk).2
  have hrest := crosses_optional (Nat.succ_pos e.size) rfl hq (fun k hk => (hoptional k hk).1) hcopy
    (Nat.zero_add (max - min))
  rw [Nat.zero_mul, Nat.add_zero] at hrest
  refine (hneeded.trans hrest).mono ?_
  rintro s t ⟨u, hsu, m, hm, hut⟩
  refine ⟨min + m, ⟨by omega, fun b hb => ?_⟩, hsu.add hut⟩
  rw [← Option.some.inj hb]
  omega

/-- A path through the code of an expression comes out behind it, and the expression matches between the two spots. -/
theorem confines {e : Expr} (hwf : e.WellFormed) : p.Confines text q e := by
  induction e with
  | empty =>
    intro place _ _ n s t h
    exact ⟨s, n, Nat.le_refl n, rfl, h⟩
  | chars set => exact confines_chars set
  | assertion a => exact confines_assertion a
  | cat e f ihe ihf => exact confines_cat (ihe hwf.1) (ihf hwf.2)
  | alt e f ihe ihf => exact confines_alt (ihe hwf.1) (ihf hwf.2)
  | group n e ih => exact confines_group n (ih hwf.2)
  | repetition min max greedy e ih =>
    match min, max with
    | 0, none => exact confines_star greedy (ih hwf.2)
    | min + 1, none => exact confines_plus min greedy (ih hwf.2)
    | min, some max => exact confines_counted greedy (hwf.1 max rfl) (ih hwf.2)

end PatternGrammar.Regex.Program
