import PatternGrammar.Pattern

/-!
# Events

What happens while patterns are compiled and texts are parsed, for those who want to follow it.
-/

namespace PatternGrammar

/-- Something worth noting; `ν` are the names of definitions. -/
inductive Event (ν : Type) where
  /-- A pattern does not occur in a text. -/
  | noMatch (pattern query : Text)
  /-- The first of two alternatives failed on a text. -/
  | firstAlternativeFailed (input : Text)
  /-- An alternative of a choice failed, with so many alternatives still to come. -/
  | alternativeFailed (alternative remaining : Nat)
  /-- A pattern could not be compiled. -/
  | compileFailed (pattern : Text) (message : String)
  /-- A definition was unfolded. -/
  | unfolded (name : ν)
  /-- A probe was passed. -/
  | probed (label : String) (input : Text)
  deriving DecidableEq, Repr

namespace Pattern

def compileNoting {ν : Type} (size : Regex.Expr → Nat) (config : Config) (pattern : Text) :
    Except PatternError Pattern × List (Event ν) :=
  match compileBy size config pattern with
  | .ok p => (.ok p, [])
  | .error e => (.error e, [.compileFailed pattern e.message])

def extractNoting {ν : Type} (p : Pattern) (query : Text) : Option Extraction × List (Event ν) :=
  match p.extract query with
  | some e => (some e, [])
  | none => (none, [.noMatch p.text query])

end Pattern

end PatternGrammar
