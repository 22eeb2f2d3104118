import PatternGrammar.Proofs.Regex.Path

/-!
# Where code stands

The code of an expression is put together of the code of its parts. Where it stands in a program, the code of each part
does, between instructions that are known.
-/

namespace PatternGrammar.Regex.Program

variable {p : Program}

/-- Some instructions stand in a program from a place on. -/
def Contains (p : Program) (place : Nat) (is : List Instruction) : Prop :=
  ∀ k, k < is.length → p.code[place + k]? = is[k]?

namespace Contains

variable {place : Nat} {i : Instruction} {is js : List Instruction}

theorem left (h : p.Contains place (is ++ js)) : p.Contains place is := by
  intro k hk
  rw [h k (by rw [List.length_append]; omega), List.getElem?_append_left hk]

theorem right (h : p.Contains place (is ++ js)) : p.Contains (place + is.length) js := by
  intro k hk
  rw [Nat.add_assoc, h _ (by rw [List.length_append]; omega), List.getElem?_append_right (Nat.le_add_right _ _),
    Nat.add_sub_cancel_left]

theorem head (h : p.Contains place (i :: is)) : p.code[place]? = some i :=
  h 0 (Nat.zero_lt_succ _)

theorem tail (h : p.Contains place (i :: is)) : p.Contains (place + 1) is :=
  @right p place [i] is h

/-- One of some copies of code in a row. -/
theorem copy {n m k : Nat} {f : Nat → List Instruction} (hf : ∀ k, (f k).length = m)
    (h : p.Contains place ((List.range n).flatMap f)) (hk : k < n) : p.Contains (place + k * m) (f k) := by
  induction n with
  | zero => omega
  | succ n ih =>
    rw [List.range_succ, List.flatMap_append] at h
    -- the last copy is what stands behind the first `n`
    rcases Nat.lt_succ_iff_lt_or_eq.mp hk with hlt | rfl
    · exact ih h.left hlt
    · have hlast := h.right
      rw [Expr.length_flatMap_range hf] at hlast
      simpa using hlast

end Contains

/-! ## The code of each expression -/

namespace Contains

variable {place min max n : Nat} {greedy : Bool} {e f : Expr}

/-- The code of a sequence is that of its parts in a row. -/
theorem cat (h : p.Contains place ((Expr.cat e f).code place)) :
    p.Contains place (e.code place) ∧ p.Contains (place + e.size) (f.code (place + e.size)) := by
  have hright := h.right
  rw [Expr.length_code] at hright
  exact ⟨h.left, hright⟩

/-- The code of an alternative: a branch, the first part with a jump behind it, and the second part. -/
theorem alt (h : p.Contains place ((Expr.alt e f).code place)) :
    p.code[place]? = some (.branch (place + 1) (place + e.size + 2)) ∧
      p.Contains (place + 1) (e.code (place + 1)) ∧
      p.code[place + 1 + e.size]? = some (.jump (place + e.size + 2 + f.size)) ∧
      p.Contains (place + e.size + 2) (f.code (place + e.size + 2)) := by
  have hright := h.right
  rw [List.length_cons, Expr.length_code, ← Nat.add_assoc, Nat.add_right_comm] at hright
  have htail := hright.tail
  rw [show place + 1 + e.size + 1 = place + e.size + 2 by omega] at htail
  exact ⟨h.left.head, h.left.tail, hright.head, htail⟩

theorem group (h : p.Contains place ((Expr.group n e).code place)) :
    p.code[place]? = some (.mark (2 * n)) ∧ p.Contains (place + 1) (e.code (place + 1)) ∧
      p.code[place + 1 + e.size]? = some (.mark (2 * n + 1)) := by
  have hright := h.right
  rw [List.length_cons, Expr.length_code, ← Nat.add_assoc, Nat.add_right_comm] at hright
  exact ⟨h.left.head, h.left.tail, hright.head⟩

/-- The instruction behind the body of a loop leads back to the body, and out of the loop. -/
theorem star (h : p.Contains place ((Expr.repetition 0 none greedy e).code place)) :
    p.code[place]? = some (.loop greedy (place + 1) (place + e.size + 2)) ∧
      p.Contains (place + 1) (e.code (place + 1)) ∧
      (p.code[place + 1 + e.size]? = some (.loop greedy (place + 1) (place + e.size + 2)) ∨
        p.code[place + 1 + e.size]? = some (.jump place)) := by
  have hright := h.right
  rw [List.length_cons, Expr.length_code, ← Nat.add_assoc, Nat.add_right_comm] at hright
  refine ⟨h.left.head, h.left.tail, ?_⟩
  -- a body that may match the empty text is followed by a branch of its own
  rw [hright.head]
  cases e.isNullable with
  | true => exact .inl rfl
  | false => exact .inr rfl

/-- The code of at least one round: the copies that are needed, of which the last one is the body of the loop. -/
theorem plus (h : p.Contains place ((Expr.repetition (min + 1) none greedy e).code place)) :
    (∀ k < min + 1, p.Contains (place + k * e.size) (e.code (place + k * e.size))) ∧
      p.code[place + (min + 1) * e.size]? =
        some (.loop greedy (place + min * e.size) (place + (min + 1) * e.size + 1)) := by
  refine ⟨fun k hk => h.left.copy (fun _ => Expr.length_code _ _) hk, ?_⟩
  have hright := h.right
  rw [Expr.length_flatMap_range fun _ => Expr.length_code _ _] at hright
  rw [hright.head, Nat.succ_mul, Nat.add_assoc place]

/-- The code of a counted repetition: the copies that are needed, and optional ones that are left for the end. -/
theorem counted (h : p.Contains place ((Expr.repetition min (some max) greedy e).code place)) :
    (∀ k < min, p.Contains (place + k * e.size) (e.code (place + k * e.size))) ∧
      ∀ k < max - min,
        p.code[place + min * e.size + k * (e.size + 1)]? =
          some (.loop greedy (place + min * e.size + k * (e.size + 1) + 1)
            (place + min * e.size + (max - min) * (e.size + 1))) ∧
        p.Contains (place + min * e.size + k * (e.size + 1) + 1)
          (e.code (place + min * e.size + k * (e.size + 1) + 1)) := by
  rw [Expr.code] at h
  refine ⟨fun k hk => h.left.copy (fun _ => Expr.length_code _ _) hk, fun k hk => ?_⟩
  have hright := h.right
  rw [Expr.length_flatMap_range fun _ => Expr.length_code _ _] at hright
  have hcopy := hright.copy (m := e.size + 1) (by simp [Expr.length_code]) hk
  exact ⟨hcopy.head, hcopy.tail⟩

end Contains

end PatternGrammar.Regex.Program
