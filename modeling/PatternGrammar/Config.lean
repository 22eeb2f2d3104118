/-!
# Compile options

What can be chosen when a pattern is compiled.
-/

namespace PatternGrammar

structure Config where
  /-- Letters match in both cases. -/
  caseInsensitive : Bool := true
  /-- `^` and `$` match at line ends. -/
  multiLine : Bool := false
  /-- `.` matches a line feed. -/
  dotMatchesNewLine : Bool := false
  /-- The largest size of a compiled pattern, in bytes. -/
  sizeLimit : UInt64 := 10485760
  /-- The largest depth of a pattern's tree. -/
  nestLimit : UInt32 := 250
  deriving DecidableEq, Repr

namespace Config

def standard : Config := {}

instance : Inhabited Config := ⟨standard⟩

def caseSensitive : Config :=
  { standard with caseInsensitive := false }

/-- The options by name, in the order in which they are written. -/
inductive Field where
  | caseInsensitive
  | multiLine
  | dotMatchesNewLine
  | sizeLimit
  | nestLimit
  deriving DecidableEq, Repr

namespace Field

def name : Field → String
  | caseInsensitive => "case_insensitive"
  | multiLine => "multi_line"
  | dotMatchesNewLine => "dot_matches_new_line"
  | sizeLimit => "size_limit"
  | nestLimit => "nest_limit"

def all : List Field :=
  [caseInsensitive, multiLine, dotMatchesNewLine, sizeLimit, nestLimit]

def ofName? (name : List Char) : Option Field :=
  all.find? fun f => f.name.toList = name

end Field

def valueText (c : Config) : Field → String
  | .caseInsensitive => toString c.caseInsensitive
  | .multiLine => toString c.multiLine
  | .dotMatchesNewLine => toString c.dotMatchesNewLine
  | .sizeLimit => toString c.sizeLimit.toNat
  | .nestLimit => toString c.nestLimit.toNat

end Config

end PatternGrammar
