import PatternGrammar.Pattern

/-!
# Interpreters

An interpreter makes a value of what a pattern has taken out of a text.
-/

namespace PatternGrammar

/-- A function from extractions to values. -/
structure Interpreter (α : Type) where
  eval : Extraction → α

namespace Interpreter

def map {α β : Type} (f : α → β) (i : Interpreter α) : Interpreter β :=
  ⟨fun e => f (i.eval e)⟩

def constant {α : Type} (value : α) : Interpreter α :=
  ⟨fun _ => value⟩

def groups : Interpreter (List Text) :=
  ⟨fun e => e.groups⟩

/-- What the group at an index matched, counting from 0 the groups that matched something. -/
def group (index : Nat) : Interpreter (Option Text) :=
  ⟨fun e => e.groups[index]?⟩

def stripped : Interpreter Text :=
  ⟨fun e => e.stripped⟩

theorem map_id {α : Type} (i : Interpreter α) : i.map id = i := rfl

theorem map_map {α β γ : Type} (f : β → γ) (g : α → β) (i : Interpreter α) :
    (i.map g).map f = i.map (f ∘ g) := rfl

end Interpreter

end PatternGrammar
