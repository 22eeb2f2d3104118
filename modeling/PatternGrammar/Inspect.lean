import PatternGrammar.Interpreter
import PatternGrammar.Text.Quoted

/-!
# Showing values for inspection

Records, lists and texts in a form that shows what they are made of: on one line, or with a line for each part.
-/

namespace PatternGrammar

inductive Shown where
  /-- A word or a number. -/
  | word (text : String)
  /-- A text between quotes. -/
  | quoted (text : Text)
  /-- A name with named parts. -/
  | record (name : String) (fields : List (String × Shown))
  /-- A name with a part that has no name. -/
  | wrapped (name : String) (inner : Shown)
  | list (items : List Shown)

namespace Shown

def commas (parts : List String) : String :=
  ", ".intercalate parts

def openBrace : String := "\x7b"

def closeBrace : String := "\x7d"

mutual

def line : Shown → String
  | word text => text
  | quoted text => String.ofList text.quoted
  | record name fields => name ++ " " ++ openBrace ++ " " ++ commas (lineFields fields) ++ " " ++ closeBrace
  | wrapped name inner => name ++ "(" ++ inner.line ++ ")"
  | list items => "[" ++ commas (lineItems items) ++ "]"

def lineFields : List (String × Shown) → List String
  | [] => []
  | (name, s) :: rest => (name ++ ": " ++ s.line) :: lineFields rest

def lineItems : List Shown → List String
  | [] => []
  | s :: rest => s.line :: lineItems rest

end

/-- The start of a line inside so many values. -/
def margin (depth : Nat) : String :=
  "".pushn ' ' (4 * depth)

mutual

/-- A value with a line for each part, itself inside so many values. -/
def block (depth : Nat) : Shown → String
  | word text => text
  | quoted text => String.ofList text.quoted
  | record name fields =>
      name ++ " " ++ openBrace ++ "\n" ++ blockFields (depth + 1) fields ++ margin depth ++ closeBrace
  | wrapped name inner =>
      name ++ "(\n" ++ margin (depth + 1) ++ inner.block (depth + 1) ++ ",\n" ++ margin depth ++ ")"
  | list [] => "[]"
  | list items => "[\n" ++ blockItems (depth + 1) items ++ margin depth ++ "]"

def blockFields (depth : Nat) : List (String × Shown) → String
  | [] => ""
  | (name, s) :: rest => margin depth ++ name ++ ": " ++ s.block depth ++ ",\n" ++ blockFields depth rest

def blockItems (depth : Nat) : List Shown → String
  | [] => ""
  | s :: rest => margin depth ++ s.block depth ++ ",\n" ++ blockItems depth rest

end

end Shown

def Extraction.shown (e : Extraction) : Shown :=
  .record "LexResult" [("stripped_input", .quoted e.stripped), ("groups", .list (e.groups.map .quoted))]

def Config.shown (c : Config) : Shown :=
  .record "PatternConfig" (Field.all.map fun f => (f.name, .word (c.valueText f)))

def PatternError.shown : PatternError → Shown
  | invalidPattern p m =>
      .record "InvalidPattern" [("pattern", .quoted p.toList), ("message", .quoted m.toList)]
  | patternTooLarge p m =>
      .record "PatternTooLarge" [("pattern", .quoted p.toList), ("message", .quoted m.toList)]
  | invalidConfig m => .wrapped "InvalidConfig" (.quoted m.toList)

def Pattern.shown (p : Pattern) : Shown :=
  .record "RegexParser" [("pattern", .quoted p.text)]

/-- An interpreter as it is shown: by the name of the type of its values, since a function has no text. -/
def Interpreter.shown (typeName : String) : Shown :=
  .record "Interpreter" [("output", .quoted typeName.toList)]

end PatternGrammar
