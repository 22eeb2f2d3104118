import PatternGrammar.Regex.Blank
import PatternGrammar.Regex.Fault
import PatternGrammar.Regex.Tree

/-!
# Escapes

What stands after a backslash: a character by its number, a property, a short class, a control character, an assertion,
or a punctuation character that stands for itself.
-/

namespace PatternGrammar.Regex

/-- The smallest pieces of a pattern. -/
inductive Atom where
  | literal (literal : Literal)
  | dot (span : Span)
  | assertion (span : Span) (kind : AssertionKind)
  | short (span : Span) (kind : ShortClass) (negated : Bool)
  | property (span : Span) (query : PropertyQuery) (negated : Bool)
  deriving DecidableEq, Repr

/-- What reading a piece gives: the piece and what is left of the pattern. -/
abbrev Reading (α : Type) := Except SyntaxError (α × List Char)

namespace Atom

def span : Atom → Span
  | literal l => l.span
  | dot s | assertion s _ | short s _ _ | property s _ _ => s

def toTree : Atom → Tree
  | literal l => .literal l
  | dot s => .dot s
  | assertion s k => .assertion s k
  | short s k n => .short s k n
  | property s q n => .property s q n

end Atom

/-! ## Characters by number -/

def hexValue? (c : Char) : Option Nat :=
  if '0' ≤ c ∧ c ≤ '9' then some (c.toNat - '0'.toNat)
  else if 'a' ≤ c ∧ c ≤ 'f' then some (c.toNat - 'a'.toNat + 10)
  else if 'A' ≤ c ∧ c ≤ 'F' then some (c.toNat - 'A'.toNat + 10)
  else none

def hexNumber (digits : List Char) : Nat :=
  digits.foldl (fun n d => n * 16 + (hexValue? d).getD 0) 0

def charOfNumber? (n : Nat) : Option Char :=
  if h : n.isValidChar then some (Char.ofNatAux n h) else none

/-- Reads one hexadecimal digit and `more` after it. -/
def readHexDigits (ignoring : Bool) : Nat → Nat → List Char → Reading Nat
  | _, _, [] => refuse .escapeUnfinished [] []
  | more, value, c :: cs =>
    match hexValue? c with
    | none => refuse .hexDigitInvalid (c :: cs) cs
    | some d =>
      let rest := skipIgnored ignoring cs
      match more with
      | 0 => .ok (value * 16 + d, rest)
      | more + 1 => readHexDigits ignoring more (value * 16 + d) rest

/-- Reads what follows `\x`, `\u` or `\U`: a fixed number of digits, or any number of them in braces. The escape starts
at `start`. -/
def readHex (ignoring : Bool) (start : List Char) (kind : Char) (afterKind : List Char) : Reading Literal :=
  let text := skipIgnored ignoring afterKind
  match text with
  | [] => refuse .escapeUnfinished [] []
  | '{' :: inside =>
    let (digits, rest) := takeVisible ignoring (fun c => (hexValue? c).isNone) false inside
    match rest with
    | [] => refuse .escapeUnfinished text []
    | c :: cs =>
      -- the digits stop at the first character that is none, which has to be the brace
      if c != '}' then refuse .hexDigitInvalid rest cs
      else
        let after := skipIgnored ignoring cs
        if digits.isEmpty then refuse .hexEmpty text after
        else
          match charOfNumber? (hexNumber digits) with
          | none => refuse .hexInvalid inside rest
          | some c => .ok (⟨.between start after, c, false⟩, after)
  | _ =>
    -- two, four or eight digits
    let more := if kind == 'x' then 1 else if kind == 'u' then 3 else 7
    match readHexDigits ignoring more 0 text with
    | .error e => .error e
    | .ok (n, after) =>
      match charOfNumber? n with
      | none => refuse .hexInvalid text after
      -- only two digits can mean a byte
      | some c => .ok (⟨.between start after, c, kind == 'x'⟩, after)

/-! ## Properties -/

/-- Cuts a text at the first place where `mark` stands. -/
def cutAt? (mark : List Char) : List Char → Option (List Char × List Char)
  | [] => none
  | c :: cs =>
      if mark.isPrefixOf (c :: cs) then some ([], (c :: cs).drop mark.length)
      else (cutAt? mark cs).map fun (before, after) => (c :: before, after)

/-- The question that the text between the braces of `\p` asks, and whether it is asked with `!=`, which turns the
answer round. -/
def propertyQuery (text : List Char) : PropertyQuery × Bool :=
  -- before `=`, which stands in it
  match cutAt? ['!', '='] text with
  | some (name, value) => (.value name value, true)
  | none =>
    match cutAt? [':'] text with
    | some (name, value) => (.value name value, false)
    | none =>
      match cutAt? ['='] text with
      | some (name, value) => (.value name value, false)
      | none => (.name text, false)

/-- Reads what follows `\p` or, `negated`, `\P`. -/
def readProperty (ignoring : Bool) (start : List Char) (negated : Bool) (afterKind : List Char) : Reading Atom :=
  match skipIgnored ignoring afterKind with
  | [] => refuse .escapeUnfinished [] []
  | '{' :: inside =>
    let (name, rest) := takeVisible ignoring (· == '}') false inside
    match rest with
    | [] => refuse .escapeUnfinished [] []
    | _ :: after =>
      let (query, turned) := propertyQuery name
      .ok (.property (.between start after) query (negated != turned), after)
  | c :: cs =>
    if c == '\\' then refuse .propertyLetterInvalid (c :: cs) cs
    else
      let after := skipIgnored ignoring cs
      .ok (.property (.between start after) (.name [c]) negated, after)

/-! ## Word boundaries -/

/-- Whether a character may stand in the name of a word boundary. -/
def isBoundaryLetter (c : Char) : Bool :=
  c.isAlpha || c == '-'

/-- Reads the name in braces that may follow `\b`. Without a letter after the brace there is no name, and the brace
starts a counted repetition. -/
def readBoundaryName (ignoring : Bool) (start afterB : List Char) : Reading AssertionKind :=
  match afterB with
  | '{' :: inside =>
    match skipIgnored ignoring inside with
    | [] => refuse .wordBoundaryOrCountUnclosed start []
    | c :: cs =>
      -- such as `\b{2}`, which repeats the boundary
      if !isBoundaryLetter c then .ok (.wordBoundary, afterB)
      else
        let (name, rest) := takeVisible ignoring (fun c => !isBoundaryLetter c) false (c :: cs)
        match rest with
        | '}' :: after =>
          match String.ofList name with
          | "start" => .ok (.wordStart, after)
          | "end" => .ok (.wordEnd, after)
          | "start-half" => .ok (.wordStartHalf, after)
          | "end-half" => .ok (.wordEndHalf, after)
          | _ => refuse .wordBoundaryUnrecognized (c :: cs) rest
        | _ => refuse .wordBoundaryUnclosed afterB rest
  | _ => .ok (.wordBoundary, afterB)

/-! ## All escapes -/

/-- Whether a backslash before this character makes it stand for itself: any character of ASCII but letters, digits, `<`
and `>`. -/
def isEscapable (c : Char) : Bool :=
  decide (c.toNat < 0x80) && !c.isAlphanum && !(c == '<' || c == '>')

def controlEscape? : Char → Option Char
  | 'a' => some '\x07'
  | 'f' => some '\x0C'
  | 't' => some '\t'
  | 'n' => some '\n'
  | 'r' => some '\r'
  | 'v' => some '\x0B'
  | _ => none

def assertionEscape? : Char → Option AssertionKind
  | 'A' => some .textStart
  | 'z' => some .textEnd
  | 'B' => some .notWordBoundary
  | '<' => some .wordStart
  | '>' => some .wordEnd
  | _ => none

/-- The short class that a letter after a backslash stands for, and whether it is negated. -/
def shortEscape? : Char → Option (ShortClass × Bool)
  | 'd' => some (.digit, false)
  | 's' => some (.space, false)
  | 'w' => some (.word, false)
  | 'D' => some (.digit, true)
  | 'S' => some (.space, true)
  | 'W' => some (.word, true)
  | _ => none

/-- Reads an escape. The text is what follows the backslash, and `start` the text from the backslash. -/
def readEscape (ignoring : Bool) (start : List Char) : List Char → Reading Atom
  | [] => refuse .escapeUnfinished start []
  | c :: rest =>
    if c.isDigit then refuse .backreference start rest
    else if c == 'x' || c == 'u' || c == 'U' then
      match readHex ignoring start c rest with
      | .error e => .error e
      | .ok (l, after) => .ok (.literal l, after)
    else if c == 'p' || c == 'P' then readProperty ignoring start (c == 'P') rest
    else if c == 'b' then
      match readBoundaryName ignoring start rest with
      | .error e => .error e
      | .ok (kind, after) => .ok (.assertion (.between start after) kind, after)
    else
      let span := Span.between start rest
      match shortEscape? c, controlEscape? c, assertionEscape? c with
      | some (kind, negated), _, _ => .ok (.short span kind negated, rest)
      | _, some d, _ => .ok (.literal ⟨span, d, false⟩, rest)
      | _, _, some kind => .ok (.assertion span kind, rest)
      | _, _, _ =>
        if isEscapable c then .ok (.literal ⟨span, c, false⟩, rest)
        else refuseAt .escapeUnrecognized span

def readLiteralOrEscape (ignoring : Bool) : List Char → Reading Atom
  | [] => refuse .escapeUnfinished [] []
  | c :: rest =>
    if c == '\\' then readEscape ignoring (c :: rest) rest
    else .ok (.literal ⟨.between (c :: rest) rest, c, false⟩, rest)

def readAtom (ignoring : Bool) : List Char → Reading Atom
  | [] => refuse .escapeUnfinished [] []
  | c :: rest =>
    let span := Span.between (c :: rest) rest
    if c == '.' then .ok (.dot span, rest)
    else if c == '^' then .ok (.assertion span .lineStart, rest)
    else if c == '$' then .ok (.assertion span .lineEnd, rest)
    else readLiteralOrEscape ignoring (c :: rest)

end PatternGrammar.Regex
