import PatternGrammar.Event
import PatternGrammar.Interpreter

/-!
# Grammars

A grammar describes a parser: a function that takes a text to a value and the text that is left, or fails. Grammars are
built from patterns and functions by sequencing, choice and mapping. They refer to definitions by name, which makes
recursion possible: a definition is looked up only when the parser gets there.
-/

namespace PatternGrammar

/-- What a parser can stand behind. -/
inductive Pointer where
  | reference
  | box
  /-- A counted reference. -/
  | rc
  /-- A counted reference that threads can share. -/
  | arc
  deriving DecidableEq, Repr

/-- A parser with values in a type. The names of definitions are in `ν`, and the definition of a name `n` has values in
`τ n`. -/
inductive Grammar {ν : Type} (τ : ν → Type) : Type → Type 1 where
  /-- Takes the first match of a pattern out of the text; an interpreter makes the value. -/
  | regex {α : Type} (pattern : Pattern) (interpreter : Interpreter α) : Grammar τ α
  /-- Any function. -/
  | fromFn {α : Type} (f : Text → Option (α × Text)) : Grammar τ α
  /-- Takes nothing and gives a fixed value. -/
  | pure {α : Type} (a : α) : Grammar τ α
  | map {α β : Type} (f : α → β) (p : Grammar τ α) : Grammar τ β
  /-- Puts a fixed value in place of the parser's own. -/
  | replace {α β : Type} (p : Grammar τ α) (b : β) : Grammar τ β
  /-- Runs two parsers in a row and applies the value of the first to that of the second. -/
  | apply {α β : Type} (p : Grammar τ (α → β)) (q : Grammar τ α) : Grammar τ β
  /-- Runs two parsers in a row and keeps the value of the second. -/
  | keepRight {α β : Type} (p : Grammar τ α) (q : Grammar τ β) : Grammar τ β
  /-- Runs a second parser on what the first one leaves, and keeps the value of the first and the text it left. -/
  | keepLeft {α β : Type} (p : Grammar τ α) (q : Grammar τ β) : Grammar τ α
  /-- Runs a second parser on the same text if the first one fails. -/
  | orElse {α : Type} (p q : Grammar τ α) : Grammar τ α
  /-- Runs some parsers on the same text until one succeeds. -/
  | oneOf {α : Type} {n : Nat} (ps : Fin n → Grammar τ α) : Grammar τ α
  /-- Runs two parsers in a row and pairs their values. -/
  | tuple2 {α β : Type} (p : Grammar τ α) (q : Grammar τ β) : Grammar τ (α × β)
  /-- Runs three parsers in a row and keeps all values. -/
  | tuple3 {α β γ : Type} (p : Grammar τ α) (q : Grammar τ β) (r : Grammar τ γ) : Grammar τ (α × β × γ)
  /-- The definition of a name. -/
  | lazy (name : ν) : Grammar τ (τ name)
  /-- A parser behind a pointer. -/
  | behind {α : Type} (pointer : Pointer) (p : Grammar τ α) : Grammar τ α
  /-- Notes the text it is run on, and runs a parser. -/
  | probe {α : Type} (label : String) (p : Grammar τ α) : Grammar τ α

namespace Grammar

variable {ν : Type} {τ : ν → Type} {α β : Type}

/-- Runs the parsers of a list on the same text until one succeeds. -/
def choice (ps : List (Grammar τ α)) : Grammar τ α :=
  oneOf ps.get

/-- Puts a fixed value in place of the parser's own. -/
def value (b : β) (p : Grammar τ α) : Grammar τ β :=
  replace p b

def fail : Grammar τ α :=
  fromFn fun _ => none

def anyChar : Grammar τ Char :=
  fromFn fun
    | [] => none
    | c :: cs => some (c, cs)

/-- Takes the whole text. -/
def rest : Grammar τ Text :=
  fromFn fun text => some (text, [])

/-- Succeeds at the end of the text only. -/
def eof : Grammar τ Unit :=
  fromFn fun
    | [] => some ((), [])
    | _ :: _ => none

def ofPattern (config : Config) (pattern : Text) (i : Interpreter α) : Except PatternError (Grammar τ α) :=
  match Pattern.compile config pattern with
  | .error e => .error e
  | .ok p => .ok (regex p i)

end Grammar

/-- Definitions of grammars: one for each name, of which finitely many are in use. -/
structure Definitions {ν : Type} (τ : ν → Type) where
  names : List ν
  body : (name : ν) → Grammar τ (τ name)

end PatternGrammar
