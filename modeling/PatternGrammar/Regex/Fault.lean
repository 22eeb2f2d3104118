import PatternGrammar.Regex.Span

/-!
# What can be wrong with a pattern

A pattern is refused for one cause at one place. `Fault.message` has the words for each cause.
-/

namespace PatternGrammar.Regex

/-- Why a pattern is refused. -/
inductive Fault where
  | groupUnclosed
  | groupUnopened
  | groupNameUnclosed
  | groupNameEmpty
  | groupNameInvalid
  | groupNameDuplicate
  | lookAround
  | flagUnrecognized
  | flagMissing
  | flagDuplicate
  | flagNegationDangling
  | flagNegationRepeated
  | repetitionMissing
  | countUnclosed
  | countEmpty
  | countTooLarge
  | countReversed
  | classUnclosed
  | classRangeReversed
  | classRangeBoundary
  | classEscape
  | escapeUnfinished
  | escapeUnrecognized
  | backreference
  | hexDigitInvalid
  | hexEmpty
  | hexInvalid
  | propertyLetterInvalid
  | wordBoundaryOrCountUnclosed
  | wordBoundaryUnclosed
  | wordBoundaryUnrecognized
  | nestLimitExceeded (limit : Nat)
  | propertyUnknown
  | propertyValueUnknown
  | invalidUtf8
  | unicodeNotAllowed
  deriving DecidableEq, Repr

def Fault.message : Fault → String
  | groupUnclosed => "unclosed group"
  | groupUnopened => "unopened group"
  | groupNameUnclosed => "unclosed capture group name"
  | groupNameEmpty => "empty capture group name"
  | groupNameInvalid => "invalid capture group character"
  | groupNameDuplicate => "duplicate capture group name"
  | lookAround => "look-around, including look-ahead and look-behind, is not supported"
  | flagUnrecognized => "unrecognized flag"
  | flagMissing => "expected flag but got end of regex"
  | flagDuplicate => "duplicate flag"
  | flagNegationDangling => "dangling flag negation operator"
  | flagNegationRepeated => "flag negation operator repeated"
  | repetitionMissing => "repetition operator missing expression"
  | countUnclosed => "unclosed counted repetition"
  | countEmpty => "repetition quantifier expects a valid decimal"
  | countTooLarge => "decimal literal invalid"
  | countReversed => "invalid repetition count range, the start must be <= the end"
  | classUnclosed => "unclosed character class"
  | classRangeReversed => "invalid character class range, the start must be <= the end"
  | classRangeBoundary => "invalid range boundary, must be a literal"
  | classEscape => "invalid escape sequence found in character class"
  | escapeUnfinished => "incomplete escape sequence, reached end of pattern prematurely"
  | escapeUnrecognized => "unrecognized escape sequence"
  | backreference => "backreferences are not supported"
  | hexDigitInvalid => "invalid hexadecimal digit"
  | hexEmpty => "hexadecimal literal empty"
  | hexInvalid => "hexadecimal literal is not a Unicode scalar value"
  | propertyLetterInvalid => "invalid Unicode character class"
  | wordBoundaryOrCountUnclosed =>
      "found either the beginning of a special word boundary or a bounded repetition on a \\b " ++
        "with an opening brace, but no closing brace"
  | wordBoundaryUnclosed =>
      "special word boundary assertion is either unclosed or contains an invalid character"
  | wordBoundaryUnrecognized =>
      "unrecognized special word boundary assertion, valid choices are: start, end, start-half or end-half"
  | nestLimitExceeded limit =>
      "exceed the maximum number of nested parentheses/brackets (" ++ toString limit ++ ")"
  | propertyUnknown => "Unicode property not found"
  | propertyValueUnknown => "Unicode property value not found"
  | invalidUtf8 => "pattern can match invalid UTF-8"
  | unicodeNotAllowed => "Unicode not allowed here"

/-- A cause and its place; `other` is the earlier place that a duplicate repeats. -/
structure SyntaxError where
  fault : Fault
  span : Span
  other : Option Span
  deriving DecidableEq, Repr

/-- Refuses a pattern for what stands between two of its remainders. -/
def refuse {α : Type} (fault : Fault) (start stop : List Char) : Except SyntaxError α :=
  .error ⟨fault, .between start stop, none⟩

def refuseAt {α : Type} (fault : Fault) (span : Span) : Except SyntaxError α :=
  .error ⟨fault, span, none⟩

/-- Refuses a pattern for what repeats an earlier piece. -/
def refuseRepeat {α : Type} (fault : Fault) (span earlier : Span) : Except SyntaxError α :=
  .error ⟨fault, span, some earlier⟩

end PatternGrammar.Regex
