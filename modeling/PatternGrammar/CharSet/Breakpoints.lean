import PatternGrammar.CharSet

/-!
# Breakpoints

A set changes between holding and not holding code points at few places, its breakpoints. Main statement: the last
breakpoint up to a code point is a member just if that code point is, so that the breakpoints decide about all others.
-/

namespace PatternGrammar.CharSet

open Unicode

/-- The code points at which letter case begins or ceases to matter. -/
def letterEdges : List Nat :=
  foldedPoints.flatMap fun n => [n, n + 1]

/-- The breakpoints of the bands and letters that a set is built from. -/
def edges : CharSet → List Nat
  | bands bs => bs.flatMap Band.breakpoints
  | alike f n => (n :: f.sources n).flatMap fun m => [m, m + 1]
  | closure _ s => s.edges
  | union s t => s.edges ++ t.edges
  | inter s t => s.edges ++ t.edges
  | diff s t => s.edges ++ t.edges
  | symmDiff s t => s.edges ++ t.edges
  | compl s => s.edges
  | asciiOnly s => 0x80 :: s.edges

/-- Whether a set is built with all letters that are like one of its members. -/
def isClosed : CharSet → Bool
  | bands _ => false
  | alike _ _ => false
  | closure _ _ => true
  | union s t => s.isClosed || t.isClosed
  | inter s t => s.isClosed || t.isClosed
  | diff s t => s.isClosed || t.isClosed
  | symmDiff s t => s.isClosed || t.isClosed
  | compl s => s.isClosed
  | asciiOnly s => s.isClosed

/-- The breakpoints of a set: between two neighbours in this list all code points are members or none is. -/
def breakpoints (s : CharSet) : List Nat :=
  [0, 0xD7FF, 0xD800, 0xE000, 0xE001] ++ s.edges ++ if s.isClosed then letterEdges else []

/-- Between breakpoints membership does not change. -/
theorem holdsApart_eq_of_edges {s : CharSet} {m n : Nat} (le : m ≤ n) (he : ∀ p ∈ s.edges, p ≤ m ∨ n < p)
    (hl : s.isClosed = true → ∀ p ∈ letterEdges, p ≤ m ∨ n < p) : s.holdsApart m = s.holdsApart n := by
  have two {s t : CharSet} (h : ∀ p ∈ s.edges ++ t.edges, p ≤ m ∨ n < p) :
      (∀ p ∈ s.edges, p ≤ m ∨ n < p) ∧ ∀ p ∈ t.edges, p ≤ m ∨ n < p :=
    ⟨fun p hp => h p (List.mem_append_left _ hp), fun p hp => h p (List.mem_append_right _ hp)⟩
  rcases Nat.eq_or_lt_of_le le with e | lt
  · rw [e]
  induction s with
  | bands bs => exact holds_eq_of_breakpoints le he
  | alike f x =>
    have neither (k : Nat) (hk : k = m ∨ k = n) : f.fold k ≠ x := fun hx => by
      have mem : k ∈ x :: f.sources x := by
        rcases f.mem_sources_fold k with e | e
        · exact List.mem_cons.mpr (.inl (e.trans hx))
        · exact List.mem_cons_of_mem _ (hx ▸ e)
      have h₁ := he k (List.mem_flatMap.mpr ⟨k, mem, by simp⟩)
      have h₂ := he (k + 1) (List.mem_flatMap.mpr ⟨k, mem, by simp⟩)
      omega
    rw [holdsApart, holdsApart, beq_eq_false_iff_ne.mpr (neither m (.inl rfl)),
      beq_eq_false_iff_ne.mpr (neither n (.inr rfl))]
  | closure f s ih =>
    have apart (k : Nat) (hk : k = m ∨ k = n) : k ∉ foldedPoints := fun mem => by
      have h₁ := hl rfl k (List.mem_flatMap.mpr ⟨k, mem, by simp⟩)
      have h₂ := hl rfl (k + 1) (List.mem_flatMap.mpr ⟨k, mem, by simp⟩)
      omega
    have hm := f.fold_eq_self_of_not_mem (apart m (.inl rfl))
    have hn := f.fold_eq_self_of_not_mem (apart n (.inr rfl))
    simp only [holdsApart, hm.1, hm.2, hn.1, hn.2, List.any_nil, Bool.or_false]
    exact ih he fun _ => hl rfl
  | union s t ihs iht =>
    simp only [isClosed, Bool.or_eq_true] at hl
    rw [holdsApart, holdsApart, ihs (two he).1 fun h => hl (.inl h), iht (two he).2 fun h => hl (.inr h)]
  | inter s t ihs iht =>
    simp only [isClosed, Bool.or_eq_true] at hl
    rw [holdsApart, holdsApart, ihs (two he).1 fun h => hl (.inl h), iht (two he).2 fun h => hl (.inr h)]
  | diff s t ihs iht =>
    simp only [isClosed, Bool.or_eq_true] at hl
    rw [holdsApart, holdsApart, ihs (two he).1 fun h => hl (.inl h), iht (two he).2 fun h => hl (.inr h)]
  | symmDiff s t ihs iht =>
    simp only [isClosed, Bool.or_eq_true] at hl
    rw [holdsApart, holdsApart, ihs (two he).1 fun h => hl (.inl h), iht (two he).2 fun h => hl (.inr h)]
  | compl s ih => rw [holdsApart, holdsApart, ih he hl]
  | asciiOnly s ih =>
    have h := he 0x80 List.mem_cons_self
    rw [holdsApart, holdsApart, ih (fun p hp => he p (List.mem_cons_of_mem _ hp)) hl]
    congr 1
    simp only [decide_eq_decide]
    omega

/-- The last of some numbers up to `n`, if there is one. -/
theorem exists_last_le {l : List Nat} {n : Nat} (h : ∃ a ∈ l, a ≤ n) :
    ∃ p ∈ l, p ≤ n ∧ ∀ q ∈ l, q ≤ p ∨ n < q := by
  induction l with
  | nil => simp at h
  | cons a as ih =>
    by_cases hs : ∃ b ∈ as, b ≤ n
    · obtain ⟨p, mem, le, last⟩ := ih hs
      by_cases ha : p ≤ a ∧ a ≤ n
      · refine ⟨a, List.mem_cons_self, ha.2, fun q hq => ?_⟩
        rcases List.mem_cons.mp hq with e | hq
        · exact .inl (Nat.le_of_eq e)
        · have := last q hq
          omega
      · refine ⟨p, List.mem_cons_of_mem _ mem, le, fun q hq => ?_⟩
        rcases List.mem_cons.mp hq with e | hq
        · omega
        · exact last q hq
    · obtain ⟨b, mem, le⟩ := h
      rcases List.mem_cons.mp mem with e | mem
      · refine ⟨a, List.mem_cons_self, e ▸ le, fun q hq => ?_⟩
        rcases List.mem_cons.mp hq with e | hq
        · exact .inl (Nat.le_of_eq e)
        · exact .inr (Nat.lt_of_not_le fun hle => hs ⟨q, hq, hle⟩)
      · exact absurd ⟨b, mem, le⟩ hs

/-- The last breakpoint up to a code point is a member just if the code point is. -/
theorem holds_last_breakpoint {s : CharSet} {p n : Nat} (le : p ≤ n)
    (last : ∀ q ∈ s.breakpoints, q ≤ p ∨ n < q) : s.holds p = s.holds n := by
  simp only [breakpoints, List.mem_append] at last
  have h₁ := last 0xD7FF (.inl (.inl (by simp)))
  have h₂ := last 0xD800 (.inl (.inl (by simp)))
  have h₃ := last 0xE000 (.inl (.inl (by simp)))
  have h₄ := last 0xE001 (.inl (.inl (by simp)))
  have apart : s.holdsApart p = s.holdsApart n :=
    holdsApart_eq_of_edges le (fun q hq => last q (.inl (.inr hq)))
      fun hc q hq => last q (.inr (by simpa [hc] using hq))
  by_cases below : n < 0xD7FF
  · rw [holds, holds, isAtSeam, isAtSeam, if_neg (by simp; omega), if_neg (by simp; omega), apart]
  by_cases above : 0xE000 < n
  · rw [holds, holds, isAtSeam, isAtSeam, if_neg (by simp; omega), if_neg (by simp; omega), apart]
  have hp : isAtSeam p = true := isAtSeam_iff.mpr (by omega)
  have hn : isAtSeam n = true := isAtSeam_iff.mpr (by omega)
  rw [holds_of_isAtSeam hp, holds_of_isAtSeam hn]
  have : p = n ∨ (p ≠ 0xD7FF ∧ p ≠ 0xE000 ∧ n ≠ 0xD7FF ∧ n ≠ 0xE000) := by omega
  rcases this with e | ⟨a, b, c, d⟩
  · rw [e]
  · simp only [Seam.holds, if_neg a, if_neg b, if_neg c, if_neg d]

theorem mem_breakpoints_union {s t : CharSet} {n : Nat} (h : n ∈ s.breakpoints ∨ n ∈ t.breakpoints) :
    n ∈ (union s t).breakpoints := by
  simp only [breakpoints, edges, isClosed, List.mem_append] at h ⊢
  rcases h with ((h | h) | h) | ((h | h) | h)
  · exact .inl (.inl h)
  · exact .inl (.inr (.inl h))
  · split at h
    · next hs => simp [hs, h]
    · simp at h
  · exact .inl (.inl h)
  · exact .inl (.inr (.inr h))
  · split at h
    · next ht => simp [ht, h]
    · simp at h

end PatternGrammar.CharSet
