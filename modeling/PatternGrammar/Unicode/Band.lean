/-!
# Bands of code points

A property of characters is stored as a list of bands in ascending order. A band is an arithmetic progression, so that
the stretches where upper-case and lower-case letters alternate take one row each.
-/

namespace PatternGrammar.Unicode

/-- Every `step`-th code point from `first` to `last`. -/
structure Band where
  first : Nat
  last : Nat
  step : Nat
  deriving DecidableEq, Repr

def Band.holds (b : Band) (n : Nat) : Bool :=
  decide (b.first ≤ n ∧ n ≤ b.last ∧ (n - b.first) % b.step = 0)

/-- Whether some band holds code point `n`. The bands are in ascending order, so the first one that starts past `n` ends
the search. -/
def holds : List Band → Nat → Bool
  | [], _ => false
  | b :: bs, n =>
      if n < b.first then false
      else if n ≤ b.last then (n - b.first) % b.step == 0
      else holds bs n

/-- The code points at which a band begins or ceases to hold code points, and some more. -/
def Band.breakpoints (b : Band) : List Nat :=
  let steps := if b.step = 1 then 0 else (b.last - b.first) / b.step + 1
  b.first :: (b.last + 1) :: (List.range steps).flatMap fun k => [b.first + k * b.step, b.first + k * b.step + 1]

/-- A code point up to the end of a band is decided by that band. -/
theorem holds_cons_of_le {b : Band} {bs : List Band} {n : Nat} (lo : b.first ≤ n) (hi : n ≤ b.last) :
    holds (b :: bs) n = b.holds n := by
  simp [holds, Band.holds, Nat.not_lt.mpr lo, lo, hi, Bool.beq_eq_decide_eq]

theorem holds_cons_of_lt {b : Band} {bs : List Band} {n : Nat} (lo : b.first ≤ n) (hi : b.last < n) :
    holds (b :: bs) n = holds bs n := by
  simp [holds, Nat.not_lt.mpr lo, Nat.not_le.mpr hi]

/-- A code point in a band that is divided into steps is a breakpoint, and so is the one after it. -/
theorem Band.mem_breakpoints {b : Band} {n : Nat} (hs : b.step ≠ 1) (lo : b.first ≤ n) (hi : n ≤ b.last)
    (hn : (n - b.first) % b.step = 0) : n ∈ b.breakpoints ∧ n + 1 ∈ b.breakpoints := by
  have hk : b.first + (n - b.first) / b.step * b.step = n := by
    have := Nat.div_add_mod' (n - b.first) b.step
    omega
  have hlt : (n - b.first) / b.step < (b.last - b.first) / b.step + 1 :=
    Nat.lt_succ_of_le (Nat.div_le_div_right (by omega))
  simp only [breakpoints, if_neg hs, List.mem_cons, List.mem_flatMap, List.mem_range]
  exact ⟨.inr (.inr ⟨_, hlt, .inl hk.symm⟩), .inr (.inr ⟨_, hlt, .inr (.inl (by omega))⟩)⟩

/-- Between two breakpoints all code points are found or none is. -/
theorem holds_eq_of_breakpoints {bs : List Band} {m n : Nat} (le : m ≤ n)
    (h : ∀ p ∈ bs.flatMap Band.breakpoints, p ≤ m ∨ n < p) : holds bs m = holds bs n := by
  induction bs with
  | nil => rfl
  | cons b bs ih =>
    simp only [List.flatMap_cons, List.mem_append] at h
    have hfirst := h b.first (.inl (by simp [Band.breakpoints]))
    have hlast := h (b.last + 1) (.inl (by simp [Band.breakpoints]))
    by_cases lo : n < b.first
    · simp [holds, lo, Nat.lt_of_le_of_lt le lo]
    · have lo' : b.first ≤ m := by omega
      by_cases hi : n ≤ b.last
      · rw [holds_cons_of_le lo' (Nat.le_trans le hi), holds_cons_of_le (Nat.le_trans lo' le) hi]
        by_cases hs : b.step = 1
        · simp [Band.holds, hs, lo', hi, Nat.le_trans le hi, Nat.le_trans lo' le, Nat.mod_one]
        · rcases Nat.eq_or_lt_of_le le with e | lt
          · rw [e]
          · have hm : (m - b.first) % b.step ≠ 0 := fun hz => by
              have := h (m + 1) (.inl (Band.mem_breakpoints hs lo' (by omega) hz).2)
              omega
            have hn : (n - b.first) % b.step ≠ 0 := fun hz => by
              have := h n (.inl (Band.mem_breakpoints hs (by omega) hi hz).1)
              omega
            simp [Band.holds, hm, hn]
      · rw [holds_cons_of_lt lo' (by omega), holds_cons_of_lt (by omega) (by omega)]
        exact ih fun p hp => h p (.inr hp)

end PatternGrammar.Unicode
