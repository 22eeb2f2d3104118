import PatternGrammar.Proofs.Regex.Simplification

/-!
# Properties kept by simplification

Rows and choices are simplified by taking their parts apart and putting them together in another way. A property that a
row, a choice or a union of sets has when its parts have it is kept by that.
-/

namespace PatternGrammar.Regex.Expr

/-- A property that is decided by the parts of rows, choices and unions of sets. -/
structure Hereditary (P : Expr → Prop) : Prop where
  empty : P .empty
  cat (e f : Expr) : P (.cat e f) ↔ P e ∧ P f
  alt (e f : Expr) : P (.alt e f) ↔ P e ∧ P f
  unions {sets : List CharSet} (h : ∀ s ∈ sets, P (.chars s)) : P (.chars (.unions sets))

namespace Hereditary

variable {P : Expr → Prop} {es : List Expr}

theorem ofItems (hP : Hereditary P) : P (ofItems es) ↔ ∀ e ∈ es, P e := by
  induction es with
  | nil => simp [Expr.ofItems, hP.empty]
  | cons e es ih =>
    cases es with
    | nil => simp [Expr.ofItems]
    | cons f es => rw [Expr.ofItems, hP.cat, ih, List.forall_mem_cons (a := e)]

theorem items (hP : Hereditary P) (e : Expr) : (∀ f ∈ e.items, P f) ↔ P e := by
  induction e with
  | empty => simp [Expr.items, hP.empty]
  | cat e g ihe ihg => rw [Expr.items, List.forall_mem_append, ihe, ihg, hP.cat]
  | _ => simp [Expr.items]

theorem sequence (hP : Hereditary P) (hes : ∀ e ∈ es, P e) : P (sequence es) := by
  rw [Expr.sequence, hP.ofItems]
  intro f hf
  obtain ⟨e, he, hfe⟩ := List.mem_flatMap.mp hf
  exact (hP.items e).mpr (hes e he) f hfe

theorem branches (hP : Hereditary P) (e : Expr) : (∀ f ∈ e.branches, P f) ↔ P e := by
  induction e with
  | alt e g ihe ihg => rw [Expr.branches, List.forall_mem_append, ihe, ihg, hP.alt]
  | _ => simp [Expr.branches]

theorem flatMap_branches (hP : Hereditary P) (hes : ∀ e ∈ es, P e) : ∀ f ∈ es.flatMap Expr.branches, P f := by
  intro f hf
  obtain ⟨e, he, hfe⟩ := List.mem_flatMap.mp hf
  exact (hP.branches e).mpr (hes e he) f hfe

theorem ofBranches (hP : Hereditary P) (hes : ∀ e ∈ es, P e) : P (ofBranches es) := by
  induction es with
  | nil => exact hP.empty
  | cons e es ih =>
    obtain ⟨he, hes⟩ := List.forall_mem_cons.mp hes
    cases es with
    | nil => exact he
    | cons f es => exact (hP.alt _ _).mpr ⟨he, ih hes⟩

theorem join (hP : Hereditary P) (hes : ∀ e ∈ es, P e) : P (join es) := by
  unfold Expr.join
  -- a set takes the place of a choice between sets
  split
  · exact hP.empty
  · exact hes _ List.mem_cons_self
  · split
    · next sets hsets =>
      split
      · refine hP.unions fun s hs => hes _ ?_
        rw [mapM_set? hsets]
        exact List.mem_map_of_mem hs
      · exact hP.ofBranches hes
    · exact hP.ofBranches hes

theorem choice (hP : Hereditary P) (hes : ∀ e ∈ es, P e) : P (choice es) := by
  have hbranches := hP.flatMap_branches hes
  have hpieces : ∀ ps ∈ (es.flatMap Expr.branches).map pieces, ∀ e ∈ ps.flatten, P e := by
    intro ps hps e he
    obtain ⟨f, hf, rfl⟩ := List.mem_map.mp hps
    rw [flatten_pieces] at he
    exact (hP.items f).mpr (hbranches f hf) e he
  rw [Expr.choice]
  generalize (es.flatMap Expr.branches).map pieces = parts at hpieces ⊢
  split
  · rename_i first others n hcommon
    -- both the common beginning and what is left behind it come from items of the branches
    rw [hP.ofItems]
    intro e he
    rcases List.mem_append.mp he with he | he
    · obtain ⟨p, hp, hep⟩ := List.mem_flatten.mp he
      exact hpieces first List.mem_cons_self e (List.mem_flatten.mpr ⟨p, List.mem_of_mem_take hp, hep⟩)
    · refine (hP.items _).mpr (hP.join (hP.flatMap_branches ?_)) e he
      intro f hf
      obtain ⟨ps, hps, rfl⟩ := List.mem_map.mp hf
      rw [hP.ofItems]
      intro g hg
      obtain ⟨p, hp, hgp⟩ := List.mem_flatten.mp hg
      exact hpieces ps hps g (List.mem_flatten.mpr ⟨p, List.mem_of_mem_drop hp, hgp⟩)
  · exact hP.join hbranches

end Hereditary

/-- A repetition is simplified to nothing, to its body or to one with other bounds. -/
theorem holds_repeated {P : Expr → Prop} {min : Nat} {max : Option Nat} {greedy : Bool} {e : Expr} (hempty : P .empty)
    (hbody : P e) (hrepetition : ∀ lo hi, P (.repetition lo hi greedy e)) : P (repeated min max greedy e) := by
  unfold repeated
  extract_lets lo hi
  split
  · exact hempty
  · split
    · exact hbody
    · exact hrepetition lo hi

end PatternGrammar.Regex.Expr
