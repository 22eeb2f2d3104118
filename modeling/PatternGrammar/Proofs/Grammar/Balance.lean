import PatternGrammar.Proofs.Grammar.Invariant

/-!
# Failures and recoveries

Where only patterns fail, each failure is noted once, and either another parser is run on the text or the whole run
fails (`Grammar.BuiltFrom.failures_balance`). No sequence goes on behind a step that failed.
-/

namespace PatternGrammar

namespace Event

variable {ν : Type}

def isNoMatch : Event ν → Bool
  | noMatch _ _ => true
  | _ => false

def isFirstAlternativeFailed : Event ν → Bool
  | firstAlternativeFailed _ => true
  | _ => false

/-- The next alternative of a choice is run. -/
def isAlternativePassed : Event ν → Bool
  | alternativeFailed _ remaining => decide (0 < remaining)
  | _ => false

/-- Patterns and alternatives that fail, and nothing else, are noted without being asked to. -/
def isFailure : Event ν → Bool
  | noMatch _ _ => true
  | firstAlternativeFailed _ => true
  | alternativeFailed _ _ => true
  | _ => false

end Event

namespace Parts

variable {ν : Type}

/-- Only patterns fail, and no choice is empty. -/
def noting (known : ν → Prop) : Parts ν where
  pattern _ := True
  function f := ∀ text, f text ≠ none
  orElse := True
  choice n := 0 < n
  definition := known

/-- Only patterns fail, and there are no alternatives. -/
def straight (known : ν → Prop) : Parts ν where
  pattern _ := True
  function f := ∀ text, f text ≠ none
  orElse := False
  choice _ := False
  definition := known

/-- As many patterns fail as alternatives are left for others, and one more if the run fails. -/
def Balanced (_ : Text) (left : Option Text) (es : List (Event ν)) : Prop :=
  es.countP Event.isNoMatch =
    es.countP Event.isFirstAlternativeFailed + es.countP Event.isAlternativePassed +
      if left.isNone then 1 else 0

/-- Putting runs together keeps the balance of failures and alternatives: each failure of an alternative but the last is
made up for by the next one. -/
theorem keep_balanced (known : ν → Prop) : (noting known).Keep Balanced where
  found _ _ := rfl
  missed _ _ := rfl
  function f input hf := by
    cases h : f input with
    | none => exact absurd h (hf input)
    | some rest => rfl
  stay _ := rfl
  sequence h h' := by
    simp only [Balanced, List.countP_append] at h h' ⊢
    simp only [Option.isNone_some, Bool.false_eq_true, if_false] at h
    omega
  back h := h
  -- the failure of the first one is made up for by the event behind it
  orElse _ h h' := by
    simp only [Balanced, List.countP_append] at h h' ⊢
    simp [Event.isNoMatch, Event.isFirstAlternativeFailed, Event.isAlternativePassed] at h h' ⊢
    omega
  alternative index _ h h' := by
    simp only [Balanced, List.countP_append] at h h' ⊢
    simp [Event.isNoMatch, Event.isFirstAlternativeFailed, Event.isAlternativePassed] at h h' ⊢
    omega
  -- the failure of the last one is that of the choice
  lastAlternative index _ h := by
    simp only [Balanced, List.countP_append] at h ⊢
    simp [Event.isNoMatch, Event.isFirstAlternativeFailed, Event.isAlternativePassed] at h ⊢
    omega
  noAlternative _ hn := absurd hn (Nat.lt_irrefl 0)
  unfolded name h := h
  probed label h := h

/-- Nothing fails, or one thing does and the run with it. -/
def FailsOnce (_ : Text) (left : Option Text) (es : List (Event ν)) : Prop :=
  es.countP Event.isFailure = if left.isNone then 1 else 0

/-- Without alternatives the first failure ends the run. -/
theorem keep_failsOnce (known : ν → Prop) : (straight known).Keep FailsOnce where
  found _ _ := rfl
  missed _ _ := rfl
  function f input hf := by
    cases h : f input with
    | none => exact absurd h (hf input)
    | some rest => rfl
  stay _ := rfl
  sequence h h' := by
    simp only [FailsOnce, List.countP_append] at h h' ⊢
    rw [h, h']
    exact Nat.zero_add _
  back h := h
  orElse hparts := hparts.elim
  alternative _ hparts := hparts.elim
  lastAlternative _ hparts := hparts.elim
  noAlternative _ hparts := hparts.elim
  unfolded name h := h
  probed label h := h

end Parts

namespace Grammar

variable {ν : Type} {τ : ν → Type} {body : (name : ν) → Grammar τ (τ name)} {known : ν → Prop} {α : Type}
  {g : Grammar τ α} {input : Text} {r : Run ν α}

/-- Failures of patterns are balanced by the alternatives that are run after them, up to the one that makes the whole
run fail. Without alternatives there is no failure, or one and the run fails. -/
theorem BuiltFrom.failures_balance (hg : g.BuiltFrom (.noting known))
    (hbody : ∀ name, known name → (body name).BuiltFrom (.noting known)) (h : g.Gives body input r) :
    r.events.countP Event.isNoMatch =
        r.events.countP Event.isFirstAlternativeFailed + r.events.countP Event.isAlternativePassed +
          (if r.outcome = none then 1 else 0) ∧
      (g.BuiltFrom (.straight known) →
        (∀ name, known name → (body name).BuiltFrom (.straight known)) →
          r.events.countP Event.isFailure = if r.outcome = none then 1 else 0) := by
  constructor
  · have hbalanced := hg.holds hbody (Parts.keep_balanced known) h
    simp only [Parts.Balanced, Option.isNone_map, Option.isNone_iff_eq_none] at hbalanced
    exact hbalanced
  · intro hg hbody
    have honce := hg.holds hbody (Parts.keep_failsOnce known) h
    simp only [Parts.FailsOnce, Option.isNone_map, Option.isNone_iff_eq_none] at honce
    exact honce

/-- A choice of `c` and of all `b` there are, on a text without `c`. -/
theorem failures_balance_letters :
    ∃ (b c : Pattern) (body : Unit → Grammar (fun _ : Unit => Unit) Unit) (r : Run Unit Unit),
      (Grammar.choice [.regex c (.constant ()), .lazy ()]).Gives body ['a', 'b', 'b'] r ∧
        body () = .orElse (.keepRight (.regex b (.constant ())) (.lazy ())) (.pure ()) ∧
        r.outcome = some ((), ['a']) ∧ r.events.countP Event.isNoMatch = 2 ∧
        r.events.countP Event.isNoMatch =
          r.events.countP Event.isFirstAlternativeFailed + r.events.countP Event.isAlternativePassed := by
  let letter (l : Char) : Pattern := ⟨[l], .ofExpr (.chars (.single l.toNat)) 0⟩
  let body : Unit → Grammar (fun _ : Unit => Unit) Unit := fun _ =>
    .orElse (.keepRight (.regex (letter 'b') (.constant ())) (.lazy ())) (.pure ())
  let g : Grammar (fun _ : Unit => Unit) Unit := .choice [.regex (letter 'c') (.constant ()), .lazy ()]
  have hbody (name : Unit) (_ : True) : (body name).BuiltFrom (.noting fun _ => True) :=
    ⟨trivial, ⟨trivial, trivial⟩, trivial⟩
  have hg : g.BuiltFrom (.noting fun _ => True) :=
    ⟨Nat.zero_lt_two, fun i => match i with | 0 => trivial | 1 => trivial⟩
  have hrun : g.Gives body ['a', 'b', 'b'] ⟨some ((), ['a']),
      [.noMatch ['c'] ['a', 'b', 'b'], .alternativeFailed 0 1, .unfolded (), .unfolded (), .unfolded (),
        .noMatch ['b'] ['a'], .firstAlternativeFailed ['a']]⟩ := ⟨3, rfl⟩
  obtain ⟨hbalance, -⟩ := hg.failures_balance hbody hrun
  exact ⟨letter 'b', letter 'c', body, _, hrun, rfl, rfl, rfl, hbalance⟩

end Grammar

end PatternGrammar
