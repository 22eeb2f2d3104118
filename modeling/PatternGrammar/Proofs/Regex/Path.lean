import PatternGrammar.Proofs.Regex.Matching
import PatternGrammar.Regex.Search

/-!
# Paths through a program

A program is a graph: from an instruction at a spot of the text it is possible to go on to some others. Spots carry the
positions that were noted on the way, and `Expr.Leads` says between which of them an expression matches.
-/

namespace PatternGrammar.Regex

/-- A place of a text, and the positions noted on the way to it, the last one in front. -/
structure Spot where
  position : Nat
  marks : Marks
  deriving DecidableEq, Repr

def Spot.note (s : Spot) (slot : Nat) : Spot :=
  ⟨s.position, (slot, s.position) :: s.marks⟩

/-- An expression matches from one spot to another, and notes what its groups match. -/
def Expr.Leads (text : Text) : Expr → Spot → Spot → Prop
  | empty, s, t => s = t
  | chars set, s, t =>
    t.marks = s.marks ∧ ReadsOne text (fun c => set.mem c = true) s.position t.position
  | assertion a, s, t => s = t ∧ a.HoldsAt text s.position
  | cat e f, s, t => ∃ u, e.Leads text s u ∧ f.Leads text u t
  | alt e f, s, t => e.Leads text s t ∨ f.Leads text s t
  | group n e, s, t => ∃ u, e.Leads text (s.note (2 * n)) u ∧ t = u.note (2 * n + 1)
  | repetition min max _ e, s, t => ∃ n, Within min max n ∧ Times (e.Leads text) n s t

namespace Expr

variable {text : Text}

/-- A way to match that notes positions is a way to match. -/
theorem matches_of_leads {e : Expr} {s t : Spot} (h : e.Leads text s t) : e.Matches text s.position t.position := by
  induction e generalizing s t with
  | empty => exact congrArg Spot.position h
  | chars _ => exact h.2
  | assertion _ => exact ⟨congrArg Spot.position h.1, h.2⟩
  | cat e f ihe ihf =>
    obtain ⟨u, hsu, hut⟩ := h
    exact ⟨u.position, ihe hsu, ihf hut⟩
  | alt e f ihe ihf => exact h.imp ihe ihf
  | group n e ih =>
    obtain ⟨u, hu, rfl⟩ := h
    have hbody := ih hu
    exact hbody
  | repetition min max greedy e ih =>
    obtain ⟨n, hn, htimes⟩ := h
    exact ⟨n, hn, htimes.map Spot.position fun s t => ih⟩

/-- Positions can be noted on every way to match. -/
theorem exists_leads_of_matches {e : Expr} {i j : Nat} (h : e.Matches text i j) (marks : Marks) :
    ∃ marks', e.Leads text ⟨i, marks⟩ ⟨j, marks'⟩ := by
  induction e generalizing i j marks with
  | empty =>
    have hij : i = j := h
    exact ⟨marks, hij ▸ rfl⟩
  | chars _ => exact ⟨marks, rfl, h⟩
  | assertion _ => exact ⟨marks, h.1 ▸ rfl, h.2⟩
  | cat e f ihe ihf =>
    obtain ⟨k, hik, hkj⟩ := h
    obtain ⟨marks', he⟩ := ihe hik marks
    obtain ⟨marks'', hf⟩ := ihf hkj marks'
    exact ⟨marks'', _, he, hf⟩
  | alt e f ihe ihf =>
    rcases h with h | h
    · obtain ⟨marks', he⟩ := ihe h marks
      exact ⟨marks', .inl he⟩
    · obtain ⟨marks', hf⟩ := ihf h marks
      exact ⟨marks', .inr hf⟩
  | group n e ih =>
    obtain ⟨marks', he⟩ := ih h ((2 * n, i) :: marks)
    exact ⟨(2 * n + 1, j) :: marks', ⟨j, marks'⟩, he, rfl⟩
  | repetition min max greedy e ih =>
    obtain ⟨n, hn, htimes⟩ := h
    suffices ∃ marks', Times (e.Leads text) n ⟨i, marks⟩ ⟨j, marks'⟩ by
      obtain ⟨marks', h⟩ := this
      exact ⟨marks', n, hn, h⟩
    -- each round starts with what the rounds before it have noted
    clear hn
    induction n generalizing i marks with
    | zero =>
      have hij : i = j := htimes
      exact ⟨marks, hij ▸ rfl⟩
    | succ n ihn =>
      obtain ⟨k, hik, hkj⟩ := htimes
      obtain ⟨marks', he⟩ := ih hik marks
      obtain ⟨marks'', hrest⟩ := ihn marks' hkj
      exact ⟨marks'', _, he, hrest⟩

end Expr

namespace Program

variable {p : Program} {text : Text}

/-! ## Steps -/

def Step (p : Program) (text : Text) (a b : Nat × Spot) : Prop :=
  match p.code[a.1]? with
  | some (.chars set) =>
    b.1 = a.1 + 1 ∧ b.2.marks = a.2.marks ∧
      ReadsOne text (fun c => set.mem c = true) a.2.position b.2.position
  | some (.assertion x) => b = (a.1 + 1, a.2) ∧ x.HoldsAt text a.2.position
  | some (.mark slot) => b = (a.1 + 1, a.2.note slot)
  | some (.jump target) => b = (target, a.2)
  | some (.branch first second) => b = (first, a.2) ∨ b = (second, a.2)
  | some .accept => False
  | none => False

/-- A loop goes on or leaves, and which of them it prefers is not seen by steps. -/
theorem step_loop {q again leave : Nat} {greedy : Bool} {s : Spot} {b : Nat × Spot}
    (h : p.code[q]? = some (.loop greedy again leave)) : p.Step text (q, s) b ↔ b = (again, s) ∨ b = (leave, s) := by
  cases greedy with
  | true => simp only [Step, h, Instruction.loop, if_true]
  | false =>
    -- a lazy loop has its two ways the other way round
    simp only [Step, h, Instruction.loop, Bool.false_eq_true, if_false]
    exact or_comm

def Reaches (p : Program) (text : Text) (a b : Nat × Spot) : Prop :=
  ∃ n, Times (p.Step text) n a b

theorem Reaches.refl (a : Nat × Spot) : p.Reaches text a a :=
  ⟨0, rfl⟩

theorem Reaches.trans {a b c : Nat × Spot} (hab : p.Reaches text a b) (hbc : p.Reaches text b c) :
    p.Reaches text a c := by
  obtain ⟨m, hm⟩ := hab
  obtain ⟨n, hn⟩ := hbc
  exact ⟨m + n, hm.add hn⟩

theorem Reaches.step {a b : Nat × Spot} (h : p.Step text a b) : p.Reaches text a b :=
  ⟨1, b, h, rfl⟩

theorem Reaches.again {q again leave : Nat} {greedy : Bool} (h : p.code[q]? = some (.loop greedy again leave))
    (s : Spot) : p.Reaches text (q, s) (again, s) :=
  .step ((step_loop h).mpr (.inl rfl))

theorem Reaches.leave {q again leave : Nat} {greedy : Bool} (h : p.code[q]? = some (.loop greedy again leave))
    (s : Spot) : p.Reaches text (q, s) (leave, s) :=
  .step ((step_loop h).mpr (.inr rfl))

end Program

end PatternGrammar.Regex
