import PatternGrammar.Regex.Span

/-!
# Pattern trees

The tree of a pattern as it is written, before flags, property names and character sets are given their meaning. Every
node knows its span.
-/

namespace PatternGrammar.Regex

inductive Flag where
  /-- `i`: letters match in both cases. -/
  | caseInsensitive
  /-- `m`: `^` and `$` match at line ends. -/
  | multiLine
  /-- `s`: `.` matches a line feed. -/
  | dotMatchesNewLine
  /-- `U`: greedy and lazy repetitions change places. -/
  | swapGreed
  /-- `u`: sets and folding are those of Unicode. -/
  | unicode
  /-- `R`: a carriage return with a line feed ends a line. -/
  | crlf
  /-- `x`: white space and comments are ignored. -/
  | ignoreWhitespace
  deriving DecidableEq, Repr

abbrev FlagSetting := Flag × Bool

structure Literal where
  span : Span
  char : Char
  /-- Written as `\x` and two digits, which stand for a byte where Unicode is off. -/
  byteForm : Bool
  deriving DecidableEq, Repr

/-- What an assertion asks of its two neighbours. -/
inductive AssertionKind where
  | lineStart
  | lineEnd
  | textStart
  | textEnd
  | wordBoundary
  | notWordBoundary
  | wordStart
  | wordEnd
  | wordStartHalf
  | wordEndHalf
  deriving DecidableEq, Repr

/-- The sets written `\d`, `\s` and `\w`. -/
inductive ShortClass where
  | digit
  | space
  | word
  deriving DecidableEq, Repr

/-- The sets written `[:name:]` inside a class. -/
inductive NamedClass where
  | alnum
  | alpha
  | ascii
  | blank
  | cntrl
  | digit
  | graph
  | lower
  | print
  | punct
  | space
  | upper
  | word
  | xdigit
  deriving DecidableEq, Repr

/-- The property after `\p`: a name alone, or a name and a value. -/
inductive PropertyQuery where
  | name (name : List Char)
  | value (name value : List Char)
  deriving DecidableEq, Repr

/-- The operators between the operands of a class. -/
inductive SetOperator where
  | intersection
  | difference
  | symmetricDifference
  deriving DecidableEq, Repr

/-- What stands between the brackets of a class. -/
inductive ClassTree where
  | empty (span : Span)
  | literal (literal : Literal)
  | range (span : Span) (lo hi : Literal)
  | named (span : Span) (kind : NamedClass) (negated : Bool)
  | short (span : Span) (kind : ShortClass) (negated : Bool)
  | property (span : Span) (query : PropertyQuery) (negated : Bool)
  | bracket (span : Span) (negated : Bool) (body : ClassTree)
  | union (span : Span) (items : List ClassTree)
  | operation (span : Span) (operator : SetOperator) (left right : ClassTree)
  deriving Repr

def ClassTree.span : ClassTree → Span
  | empty s | named s _ _ | short s _ _ | property s _ _ | bracket s _ _ | range s _ _ | union s _
  | operation s _ _ _ => s
  | literal l => l.span

inductive GroupKind where
  /-- A capture group, with or without a name. -/
  | capture
  /-- A group that only sets flags for its body. -/
  | flagged (settings : List FlagSetting)
  deriving DecidableEq, Repr

inductive Tree where
  | empty (span : Span)
  | flags (span : Span) (settings : List FlagSetting)
  | literal (literal : Literal)
  | dot (span : Span)
  | assertion (span : Span) (kind : AssertionKind)
  | short (span : Span) (kind : ShortClass) (negated : Bool)
  | property (span : Span) (query : PropertyQuery) (negated : Bool)
  | bracket (span : Span) (negated : Bool) (body : ClassTree)
  /-- At least `min` and at most `max` times the body; without `max` there is no upper bound. -/
  | repetition (span : Span) (min : Nat) (max : Option Nat) (greedy : Bool) (body : Tree)
  | group (span : Span) (kind : GroupKind) (body : Tree)
  | alternation (span : Span) (branches : List Tree)
  | concat (span : Span) (items : List Tree)
  deriving Repr

def Tree.span : Tree → Span
  | empty s | flags s _ | dot s | assertion s _ | short s _ _ | property s _ _ | bracket s _ _ | repetition s _ _ _ _
  | group s _ _ | alternation s _ | concat s _ => s
  | literal l => l.span

end PatternGrammar.Regex
