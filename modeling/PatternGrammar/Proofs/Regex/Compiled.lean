import PatternGrammar.Proofs.Regex.Crossing
import PatternGrammar.Proofs.Regex.Search
import PatternGrammar.Proofs.Regex.Traversal

/-!
# The program of an expression

What the program of an expression finds is a match of the expression, noted as group 0 with the place where it starts
and the place where it ends; and it finds one wherever there is one.
-/

namespace PatternGrammar.Regex

variable {text : Text} {i j : Nat}

/-! ## What a match does to a spot -/

/-- The second of two places is not before the first, and lies in the text if the first one does. -/
def Ahead (text : Text) (i j : Nat) : Prop :=
  i ≤ j ∧ (i ≤ text.length → j ≤ text.length)

theorem Ahead.refl (i : Nat) : Ahead text i i :=
  ⟨Nat.le_refl i, id⟩

theorem Ahead.trans {k : Nat} (hij : Ahead text i j) (hjk : Ahead text j k) : Ahead text i k :=
  ⟨Nat.le_trans hij.1 hjk.1, fun hi => hjk.2 (hij.2 hi)⟩

/-- Some positions were noted between two spots, under numbers from 2 on. -/
def Spot.Notes (s t : Spot) : Prop :=
  ∃ notes, t.marks = notes ++ s.marks ∧ ∀ m ∈ notes, 2 ≤ m.1

theorem Spot.Notes.refl {s t : Spot} (h : t.marks = s.marks) : s.Notes t :=
  ⟨[], h, fun _ hm => absurd hm List.not_mem_nil⟩

theorem Spot.Notes.trans {s t u : Spot} (hst : s.Notes t) (htu : t.Notes u) : s.Notes u := by
  obtain ⟨first, hfirst, hle⟩ := hst
  obtain ⟨rest, hrest, hle'⟩ := htu
  refine ⟨rest ++ first, by rw [hrest, hfirst, List.append_assoc], fun m hm => ?_⟩
  exact (List.mem_append.mp hm).elim (hle' m) (hle m)

theorem Spot.Notes.note {slot : Nat} (h : 2 ≤ slot) (s : Spot) : s.Notes (s.note slot) :=
  ⟨[(slot, s.position)], rfl, fun m hm => by rw [List.mem_singleton.mp hm]; exact h⟩

namespace Expr

/-- A match ends behind its start, and not behind the end of the text. -/
theorem Matches.ahead {e : Expr} (h : e.Matches text i j) : Ahead text i j := by
  induction e generalizing i j with
  | empty =>
    obtain rfl : i = j := h
    exact .refl i
  | chars set =>
    obtain ⟨rfl, c, hc, -⟩ := h
    have hlt : i < text.length := (List.getElem?_eq_some_iff.mp hc).1
    exact ⟨Nat.le_succ i, fun _ => hlt⟩
  | assertion a =>
    obtain ⟨rfl, -⟩ := h
    exact .refl i
  | cat e f ihe ihf =>
    obtain ⟨k, hik, hkj⟩ := h
    exact (ihe hik).trans (ihf hkj)
  | alt e f ihe ihf =>
    rcases h with h | h
    · exact ihe h
    · exact ihf h
  | group n e ih => exact ih h
  | repetition min max greedy e ih =>
    obtain ⟨n, -, htimes⟩ := h
    exact htimes.closed .refl fun hfirst hrest => (ih hfirst).trans hrest

/-- Numbers 0 and 1 are left to the whole match. -/
theorem Leads.notes {e : Expr} {s t : Spot} (hwf : e.WellFormed) (h : e.Leads text s t) : s.Notes t := by
  induction e generalizing s t with
  | empty =>
    obtain rfl : s = t := h
    exact .refl rfl
  | chars set => exact .refl h.1
  | assertion a => exact .refl (congrArg Spot.marks h.1.symm)
  | cat e f ihe ihf =>
    obtain ⟨u, hsu, hut⟩ := h
    exact (ihe hwf.1 hsu).trans (ihf hwf.2 hut)
  | alt e f ihe ihf =>
    rcases h with h | h
    · exact ihe hwf.1 h
    · exact ihf hwf.2 h
  | group n e ih =>
    obtain ⟨u, hu, rfl⟩ := h
    have hn : 0 < n := hwf.1
    have hstart : s.Notes (s.note (2 * n)) := .note (by omega) s
    have hstop : u.Notes (u.note (2 * n + 1)) := .note (by omega) u
    exact hstart.trans ((ih hwf.2 hu).trans hstop)
  | repetition min max greedy e ih =>
    obtain ⟨n, -, htimes⟩ := h
    exact htimes.closed (fun _ => .refl rfl) fun hfirst hrest => (ih hwf.2 hfirst).trans hrest

/-- Only the end of the program accepts. -/
theorem accept_notMem_code (e : Expr) (place : Nat) : Instruction.accept ∉ e.code place := by
  have hloop (greedy : Bool) (again leave : Nat) : Instruction.accept ≠ .loop greedy again leave := by
    cases greedy <;> simp [Instruction.loop]
  induction e generalizing place with
  | empty => simp [code]
  | chars set => simp [code]
  | assertion a => simp [code]
  | cat e f ihe ihf => simp [code, ihe, ihf]
  | alt e f ihe ihf => simp [code, ihe, ihf]
  | group n e ih => simp [code, ih]
  | repetition min max greedy e ih =>
    cases max with
    | none =>
      cases min with
      | zero =>
        cases hnull : e.isNullable <;> simp [code, ih, hloop, hnull]
      | succ min => simp [code, ih, hloop]
    | some max => simp [code, ih, hloop]

end Expr

/-! ## Programs -/

namespace Program

variable {e : Expr} {groups : Nat}

theorem contains_ofExpr (e : Expr) (groups : Nat) : (ofExpr e groups).Contains 0 ((Expr.group 0 e).code 0) := by
  intro k hk
  rw [Nat.zero_add, ofExpr, List.getElem?_toArray, List.getElem?_append_left hk]

/-- The program accepts at one place only: behind the code of the expression. -/
theorem accepts_ofExpr {q : Nat} : (ofExpr e groups).code[q]? = some .accept ↔ q = (Expr.group 0 e).size := by
  rw [ofExpr, List.getElem?_toArray]
  constructor
  · intro h
    rcases Nat.lt_or_ge q ((Expr.group 0 e).code 0).length with hlt | hge
    -- the code of the expression does not accept
    · rw [List.getElem?_append_left hlt] at h
      exact absurd (List.mem_of_getElem? h) (Expr.accept_notMem_code _ 0)
    · rw [List.getElem?_append_right hge] at h
      have hlast := (List.getElem?_eq_some_iff.mp h).1
      rw [Expr.length_code] at hge hlast
      simp only [List.length_singleton] at hlast
      omega
  · rintro rfl
    rw [List.getElem?_append_right (Nat.le_of_eq (Expr.length_code _ _)), Expr.length_code, Nat.sub_self]
    rfl

/-- What the program of an expression finds is a match of the expression as group 0. -/
theorem leads_of_finds {s t : Spot} (hwf : e.WellFormed)
    (h : (ofExpr e groups).Finds text (0, s) t) : (Expr.group 0 e).Leads text s t := by
  obtain ⟨q, ⟨n, hpath⟩, haccept⟩ := h
  obtain rfl := accepts_ofExpr.mp haccept
  have hconfines : (ofExpr e groups).Confines text (Expr.group 0 e).size (.group 0 e) :=
    confines_group 0 (confines hwf)
  have hcross := hconfines 0 (Nat.le_of_eq (Nat.zero_add _)) (contains_ofExpr e groups)
  rw [Nat.zero_add] at hcross
  obtain ⟨u, k, -, hsu, hrest⟩ := hcross n s t hpath
  -- nothing follows an instruction that accepts
  cases k with
  | zero =>
    obtain rfl : u = t := congrArg Prod.snd hrest
    exact hsu
  | succ k =>
    obtain ⟨b, hstep, -⟩ := hrest
    simp only [Step, haccept] at hstep

/-- The program accepts from a place if its expression matches there. -/
theorem canAccept_iff (hwf : e.WellFormed) : (ofExpr e groups).CanAccept text 0 i ↔ ∃ j, e.Matches text i j := by
  constructor
  · rintro ⟨marks, t, hfinds⟩
    exact ⟨t.position, Expr.matches_of_leads (leads_of_finds hwf hfinds)⟩
  · rintro ⟨j, h⟩
    obtain ⟨marks, hleads⟩ := Expr.exists_leads_of_matches (e := .group 0 e) h []
    have hreach := traverses (.group 0 e) 0 _ _ (contains_ofExpr e groups) hleads
    rw [Nat.zero_add] at hreach
    exact ⟨[], ⟨j, marks⟩, _, hreach, accepts_ofExpr.mpr rfl⟩

/-- The whole match is noted under 0 and 1. -/
theorem last_of_leads {marks : Marks} (hwf : e.WellFormed) (h : (Expr.group 0 e).Leads text ⟨i, []⟩ ⟨j, marks⟩) :
    marks.last? 0 = some i ∧ marks.last? 1 = some j := by
  obtain ⟨u, hu, heq⟩ := h
  obtain ⟨notes, hnotes, hle⟩ := hu.notes hwf
  have hj : j = u.position := congrArg Spot.position heq
  have hmarks : marks = (1, j) :: (notes ++ [(0, i)]) := by
    rw [show marks = (u.note 1).marks from congrArg Spot.marks heq, hj]
    simp only [Spot.note, hnotes, Nat.mul_zero]
  -- groups inside leave the numbers 0 and 1 alone
  have hnone : notes.find? (·.1 == 0) = none := by
    rw [List.find?_eq_none]
    intro m hm hzero
    have htwo := hle m hm
    rw [eq_of_beq hzero] at htwo
    omega
  rw [hmarks]
  constructor
  · simp [Marks.last?, List.find?_append, hnone]
  · simp [Marks.last?]

/-- A search notes the start and the end of a match, and nothing matches from an earlier place. -/
theorem search_of_expr {marks : Marks} (hwf : e.WellFormed) (h : (ofExpr e groups).search? text = some marks) :
    ∃ i j, marks.last? 0 = some i ∧ marks.last? 1 = some j ∧ i ≤ j ∧ j ≤ text.length ∧
      e.Matches text i j ∧ ∀ k < i, ∀ l, ¬ e.Matches text k l := by
  obtain ⟨i, j, hi, hfinds, hfirst⟩ := finds_of_search h
  have hleads := leads_of_finds hwf hfinds
  obtain ⟨hstart, hstop⟩ := last_of_leads hwf hleads
  have hmatch : e.Matches text i j := Expr.matches_of_leads hleads
  refine ⟨i, j, hstart, hstop, hmatch.ahead.1, hmatch.ahead.2 hi, hmatch, fun k hk l hkl => ?_⟩
  exact hfirst k hk ((canAccept_iff hwf).mpr ⟨l, hkl⟩)

/-- A search that finds nothing has missed no match. -/
theorem not_matches_of_search (hwf : e.WellFormed) (h : (ofExpr e groups).search? text = none)
    (hi : i ≤ text.length) : ¬ e.Matches text i j :=
  fun hmatch => not_canAccept_of_search h hi ((canAccept_iff hwf).mpr ⟨j, hmatch⟩)

end Program

end PatternGrammar.Regex
