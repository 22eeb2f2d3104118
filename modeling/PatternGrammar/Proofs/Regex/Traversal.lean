import PatternGrammar.Proofs.Regex.Layout

/-!
# From matches to paths

Where an expression matches, its code leads from its first place to behind its last one and notes the same positions
(`Program.traverses`).
-/

namespace PatternGrammar.Regex.Program

variable {p : Program} {text : Text} {e f : Expr}

/-- The code of an expression, wherever it stands, can be passed as the expression matches. -/
def Traverses (p : Program) (text : Text) (e : Expr) : Prop :=
  ∀ place s t, p.Contains place (e.code place) → e.Leads text s t →
    p.Reaches text (place, s) (place + e.size, t)

theorem traverses_chars (set : CharSet) : p.Traverses text (.chars set) := by
  intro place s t hcode h
  apply Reaches.step
  simp only [Step, hcode.head]
  exact ⟨rfl, h⟩

theorem traverses_assertion (a : Assertion) : p.Traverses text (.assertion a) := by
  intro place s t hcode h
  apply Reaches.step
  simp only [Step, hcode.head]
  exact ⟨by rw [h.1, Expr.size], h.2⟩

/-- The code of a sequence can be passed where both parts match in a row. -/
theorem traverses_cat (he : p.Traverses text e) (hf : p.Traverses text f) : p.Traverses text (.cat e f) := by
  intro place s t hcode h
  obtain ⟨u, hsu, hut⟩ := h
  obtain ⟨hleft, hright⟩ := hcode.cat
  rw [Expr.size, ← Nat.add_assoc]
  exact (he place s u hleft hsu).trans (hf _ u t hright hut)

/-- The code of an alternative can be passed by either of its arms. -/
theorem traverses_alt (he : p.Traverses text e) (hf : p.Traverses text f) : p.Traverses text (.alt e f) := by
  intro place s t hcode h
  obtain ⟨hbranch, hleft, hjump, hright⟩ := hcode.alt
  have hend : place + (Expr.alt e f).size = place + e.size + 2 + f.size := by
    rw [Expr.size]
    omega
  rw [hend]
  rcases h with h | h
  · have hfirst : p.Step text (place, s) (place + 1, s) := by
      simp only [Step, hbranch, true_or]
    have hlast : p.Step text (place + 1 + e.size, t) (place + e.size + 2 + f.size, t) := by
      simp only [Step, hjump]
    exact (Reaches.step hfirst).trans ((he _ s t hleft h).trans (.step hlast))
  · have hfirst : p.Step text (place, s) (place + e.size + 2, s) := by
      simp only [Step, hbranch, or_true]
    exact (Reaches.step hfirst).trans (hf _ s t hright h)

theorem traverses_group (n : Nat) (he : p.Traverses text e) : p.Traverses text (.group n e) := by
  intro place s t hcode h
  obtain ⟨u, hu, rfl⟩ := h
  obtain ⟨hopen, hbody, hclose⟩ := hcode.group
  have hfirst : p.Step text (place, s) (place + 1, s.note (2 * n)) := by
    simp only [Step, hopen]
  have hlast : p.Step text (place + 1 + e.size, u)
      (place + (Expr.group n e).size, u.note (2 * n + 1)) := by
    simp only [Step, hclose, Expr.size, Prod.mk.injEq, and_true]
    omega
  exact (Reaches.step hfirst).trans ((he _ _ u hbody hu).trans (.step hlast))

/-! ## Repetitions -/

/-- One of some copies in a row. -/
theorem Traverses.copy (he : p.Traverses text e) {place k : Nat} {s t : Spot}
    (hcode : p.Contains (place + k * e.size) (e.code (place + k * e.size))) (h : e.Leads text s t) :
    p.Reaches text (place + k * e.size, s) (place + (k + 1) * e.size, t) := by
  rw [Nat.succ_mul, ← Nat.add_assoc]
  exact he _ s t hcode h

/-- Copies of some code in a row, `width` apart, of which the first `j` are already behind. -/
theorem reaches_of_copies {place width j m n : Nat} {s t : Spot}
    (hcopy : ∀ k < n, ∀ u v, e.Leads text u v → p.Reaches text (place + k * width, u) (place + (k + 1) * width, v))
    (hn : j + m = n) (h : Times (e.Leads text) m s t) :
    p.Reaches text (place + j * width, s) (place + n * width, t) := by
  induction m generalizing j s with
  | zero =>
    have hst : s = t := h
    rw [← hn, hst]
    exact .refl _
  | succ m ih =>
    obtain ⟨u, hsu, hut⟩ := h
    exact (hcopy j (by omega) s u hsu).trans (ih (by omega) hut)

/-- A loop whose body starts at `first`: behind the body it is possible to start again or to leave. -/
theorem reaches_of_loop {first leave n : Nat} {s t : Spot}
    (hbody : ∀ u v, e.Leads text u v → p.Reaches text (first, u) (first + e.size, v))
    (hback : ∀ u, p.Reaches text (first + e.size, u) (first, u))
    (hleave : ∀ u, p.Reaches text (first + e.size, u) (leave, u))
    (h : Times (e.Leads text) (n + 1) s t) : p.Reaches text (first, s) (leave, t) := by
  induction n generalizing s with
  | zero =>
    obtain ⟨u, hsu, rfl⟩ := h
    exact (hbody s u hsu).trans (hleave u)
  | succ n ih =>
    obtain ⟨u, hsu, hut⟩ := h
    exact ((hbody s u hsu).trans (hback u)).trans (ih hut)

/-- Optional copies, each behind a branch that leaves to the end, of which the first `j` are already behind. -/
theorem reaches_of_optional {place width leave j m n : Nat} {greedy : Bool} {s t : Spot}
    (hleave : leave = place + n * width)
    (hbranch : ∀ k < n, p.code[place + k * width]? = some (.loop greedy (place + k * width + 1) leave))
    (hcopy : ∀ k < n, ∀ u v, e.Leads text u v → p.Reaches text (place + k * width + 1, u) (place + (k + 1) * width, v))
    (hn : j + m ≤ n) (h : Times (e.Leads text) m s t) : p.Reaches text (place + j * width, s) (leave, t) := by
  induction m generalizing j s with
  | zero =>
    have hst : s = t := h
    rw [hst]
    rcases Nat.lt_or_eq_of_le hn with hlt | rfl
    · exact .leave (hbranch j hlt) t
    · rw [hleave]
      exact .refl _
  | succ m ih =>
    obtain ⟨u, hsu, hut⟩ := h
    have hbody := hcopy j (by omega) s u hsu
    exact (Reaches.again (hbranch j (by omega)) s).trans (hbody.trans (ih (by omega) hut))

/-- The code of a star can be passed in any number of rounds; a round that matches nothing is left out. -/
theorem traverses_star (greedy : Bool) (he : p.Traverses text e) : p.Traverses text (.repetition 0 none greedy e) := by
  intro place s t hcode h
  obtain ⟨n, -, htimes⟩ := h
  obtain ⟨hloop, hbody, hback⟩ := hcode.star
  have hend : place + (Expr.repetition 0 none greedy e).size = place + e.size + 2 := rfl
  rw [hend]
  cases n with
  | zero =>
    have hst : s = t := htimes
    rw [hst]
    exact .leave hloop t
  | succ n =>
    -- behind the body stands a branch of its own, or a jump to the one before it
    have hagain (u : Spot) : p.Reaches text (place + 1 + e.size, u) (place + 1, u) := by
      rcases hback with hback | hback
      · exact .again hback u
      · exact (Reaches.step (by simp only [Step, hback])).trans (.again hloop u)
    have hleave (u : Spot) : p.Reaches text (place + 1 + e.size, u) (place + e.size + 2, u) := by
      rcases hback with hback | hback
      · exact .leave hback u
      · exact (Reaches.step (by simp only [Step, hback])).trans (.leave hloop u)
    have hround := reaches_of_loop (fun u v => he _ u v hbody) hagain hleave htimes
    exact (Reaches.again hloop s).trans hround

theorem traverses_plus (min : Nat) (greedy : Bool) (he : p.Traverses text e) :
    p.Traverses text (.repetition (min + 1) none greedy e) := by
  intro place s t hcode h
  obtain ⟨n, ⟨hmin, -⟩, htimes⟩ := h
  obtain ⟨hcopies, hloop⟩ := hcode.plus
  obtain ⟨m, rfl⟩ := Nat.exists_eq_add_of_le hmin
  -- the last copy that is needed is the body of the loop
  rw [Nat.add_assoc, Nat.add_comm 1 m] at htimes
  obtain ⟨v, hsv, hvt⟩ := htimes.split
  have hneeded : p.Reaches text (place + 0 * e.size, s) (place + min * e.size, v) :=
    reaches_of_copies (fun k hk u v => he.copy (hcopies k (by omega))) (Nat.zero_add min) hsv
  rw [Nat.zero_mul, Nat.add_zero] at hneeded
  rw [Nat.succ_mul, ← Nat.add_assoc] at hloop
  have hlast := reaches_of_loop (fun u v => he _ u v (hcopies min (by omega))) (Reaches.again hloop)
    (Reaches.leave hloop) hvt
  rw [Expr.size, Nat.succ_mul, ← Nat.add_assoc, ← Nat.add_assoc]
  exact hneeded.trans hlast

/-- Copies that are not needed are left out of a counted repetition. -/
theorem traverses_counted (min max : Nat) (greedy : Bool) (he : p.Traverses text e) :
    p.Traverses text (.repetition min (some max) greedy e) := by
  intro place s t hcode h
  obtain ⟨n, ⟨hmin, hmax⟩, htimes⟩ := h
  obtain ⟨hcopies, hoptional⟩ := hcode.counted
  obtain ⟨m, rfl⟩ := Nat.exists_eq_add_of_le hmin
  obtain ⟨v, hsv, hvt⟩ := htimes.split
  have hneeded : p.Reaches text (place + 0 * e.size, s) (place + min * e.size, v) :=
    reaches_of_copies (fun k hk u v => he.copy (hcopies k hk)) (Nat.zero_add min) hsv
  rw [Nat.zero_mul, Nat.add_zero] at hneeded
  have hcopy (k : Nat) (hk : k < max - min) (u v : Spot) (huv : e.Leads text u v) :
      p.Reaches text (place + min * e.size + k * (e.size + 1) + 1, u)
        (place + min * e.size + (k + 1) * (e.size + 1), v) := by
    have hend : place + min * e.size + (k + 1) * (e.size + 1) =
        place + min * e.size + k * (e.size + 1) + 1 + e.size := by
      rw [Nat.succ_mul]
      omega
    rw [hend]
    exact he _ u v (hoptional k hk).2 huv
  have hm : 0 + m ≤ max - min := by
    have hn := hmax max rfl
    omega
  have hrest := reaches_of_optional rfl (fun k hk => (hoptional k hk).1) hcopy hm hvt
  rw [Nat.zero_mul, Nat.add_zero] at hrest
  rw [Expr.size, ← Nat.add_assoc]
  exact hneeded.trans hrest

/-- Where an expression matches, its code leads from its first place to behind its last one. -/
theorem traverses (e : Expr) : p.Traverses text e := by
  induction e with
  | empty =>
    intro place s t _ h
    obtain rfl : s = t := h
    exact .refl _
  | chars set => exact traverses_chars set
  | assertion a => exact traverses_assertion a
  | cat e f ihe ihf => exact traverses_cat ihe ihf
  | alt e f ihe ihf => exact traverses_alt ihe ihf
  | group n e ih => exact traverses_group n ih
  | repetition min max greedy e ih =>
    match min, max with
    | 0, none => exact traverses_star greedy ih
    | min + 1, none => exact traverses_plus min greedy ih
    | min, some max => exact traverses_counted min max greedy ih

end PatternGrammar.Regex.Program
