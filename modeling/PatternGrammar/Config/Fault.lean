import PatternGrammar.Text.Quoted

/-!
# What can be wrong with options

Options are refused for one cause at one place. A place is kept as the bytes that are left; where it is said to be
depends on whether the bytes came from a text or a file.
-/

namespace PatternGrammar.Config

/-- What was being read when the input ended. -/
inductive Unfinished where
  | value
  | list
  | object
  | string
  deriving DecidableEq, Repr

/-- A value of a kind that was not expected. -/
inductive Found where
  | null
  | boolean (b : Bool)
  | integer (n : Int)
  /-- A number with a fraction or an exponent, or too large for an integer, as it is written in messages. -/
  | floating (text : List Char)
  | string (text : List Char)
  | sequence
  | map
  deriving DecidableEq, Repr

inductive Expected where
  | boolean
  /-- An integer below `2 ^ 64`. -/
  | size
  /-- An integer below `2 ^ 32`. -/
  | depth
  /-- An object or array with options. -/
  | options
  deriving DecidableEq, Repr

/-- Why options are refused. -/
inductive Cause where
  | endOfInput (inside : Unfinished)
  | valueExpected
  | identExpected
  | colonExpected
  | listCommaExpected
  | objectCommaExpected
  | keyNotString
  | trailingComma
  | trailingCharacters
  | invalidNumber
  | numberOutOfRange
  | controlCharacter
  | invalidEscape
  | loneSurrogate
  | surrogateUnfinished
  | invalidCharacter
  | duplicateField (name : List Char)
  | wrongType (found : Found) (expected : Expected)
  | wrongValue (found : Found) (expected : Expected)
  deriving DecidableEq, Repr

def Unfinished.name : Unfinished → String
  | value => "a value"
  | list => "a list"
  | object => "an object"
  | string => "a string"

def Expected.name : Expected → String
  | boolean => "a boolean"
  | size => "usize"
  | depth => "u32"
  | options => "struct PatternConfig"

def Found.describe : Found → String
  | null => "null"
  | boolean b => "boolean `" ++ toString b ++ "`"
  | integer n => "integer `" ++ toString n ++ "`"
  | floating text => "floating point `" ++ String.ofList text ++ "`"
  | string text => "string " ++ String.ofList (Text.quoted text)
  | sequence => "sequence"
  | map => "map"

def Cause.message : Cause → String
  | endOfInput inside => "EOF while parsing " ++ inside.name
  | valueExpected => "expected value"
  | identExpected => "expected ident"
  | colonExpected => "expected `:`"
  | listCommaExpected => "expected `,` or `]`"
  | objectCommaExpected => "expected `,` or `\x7d`"
  | keyNotString => "key must be a string"
  | trailingComma => "trailing comma"
  | trailingCharacters => "trailing characters"
  | invalidNumber => "invalid number"
  | numberOutOfRange => "number out of range"
  | controlCharacter => "control character (\\u0000-\\u001F) found while parsing a string"
  | invalidEscape => "invalid escape"
  | loneSurrogate => "lone leading surrogate in hex escape"
  | surrogateUnfinished => "unexpected end of hex escape"
  | invalidCharacter => "invalid unicode code point"
  | duplicateField name => "duplicate field `" ++ String.ofList name ++ "`"
  | wrongType found expected => "invalid type: " ++ found.describe ++ ", expected " ++ expected.name
  | wrongValue found expected => "invalid value: " ++ found.describe ++ ", expected " ++ expected.name

/-! ## Places -/

/-- A place as a line, and the number of bytes since the line began. -/
structure Place where
  line : Nat
  column : Nat
  deriving DecidableEq, Repr

def Place.after (p : Place) (b : UInt8) : Place :=
  if b = 0x0A then ⟨p.line + 1, 0⟩ else ⟨p.line, p.column + 1⟩

def Cause.messageAt (cause : Cause) (place : Place) : String :=
  cause.message ++ " at line " ++ toString place.line ++ " column " ++ toString place.column

/-- Bytes that are being read. -/
structure Cursor where
  rest : List UInt8
  place : Place
  /-- Whether the next byte has been looked at. -/
  looked : Bool
  deriving DecidableEq, Repr

namespace Cursor

def ofBytes (bytes : List UInt8) : Cursor :=
  ⟨bytes, ⟨1, 0⟩, false⟩

/-- The cursor when the next byte has been looked at. -/
def look (c : Cursor) : Cursor :=
  { c with looked := true }

def head? (c : Cursor) : Option UInt8 :=
  c.rest.head?

def eat (c : Cursor) : Cursor :=
  match c.rest with
  | [] => c
  | b :: rest => ⟨rest, c.place.after b, false⟩

def eatMany : Nat → Cursor → Cursor
  | 0, c => c
  | n + 1, c => eatMany n c.eat

/-- The place after the next byte. -/
def next (c : Cursor) : Place :=
  match c.rest with
  | [] => c.place
  | b :: _ => c.place.after b

end Cursor

inductive Source where
  | text
  | file
  deriving DecidableEq, Repr

structure Failure where
  cause : Cause
  cursor : Cursor
  /-- Whether the next byte is the one at fault. -/
  atNext : Bool
  deriving DecidableEq, Repr

/-- The place that is reported. Of a text these are the bytes before the fault, and the byte at fault where there is
one. Of a file these are the bytes that were looked at. -/
def Failure.place (source : Source) (f : Failure) : Place :=
  let counted :=
    match source with
    | .text => f.atNext
    | .file => f.cursor.looked
  if counted then f.cursor.next else f.cursor.place

def Failure.message (source : Source) (f : Failure) : String :=
  f.cause.messageAt (f.place source)

/-- Refuses the bytes before the cursor. -/
def refuse {α : Type} (cause : Cause) (c : Cursor) : Except Failure α :=
  .error ⟨cause, c, false⟩

/-- Refuses the byte after the cursor. -/
def refuseNext {α : Type} (cause : Cause) (c : Cursor) : Except Failure α :=
  .error ⟨cause, c.look, true⟩

end PatternGrammar.Config
