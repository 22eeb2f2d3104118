import PatternGrammar.CharSet.Standard

/-!
# Assertions

An assertion matches the empty text between two neighbouring characters, either of which may be missing at an end of the
text.
-/

namespace PatternGrammar.Regex

def isWordChar (unicode : Bool) (c : Char) : Bool :=
  if unicode then CharSet.words.mem c else CharSet.asciiWords.mem c

/-- An assertion with the flags that bear on it taken into account. -/
inductive Assertion where
  | textStart
  | textEnd
  /-- After a line feed or at the start. -/
  | lineStart
  /-- Before a line feed or at the end. -/
  | lineEnd
  /-- As `lineStart`, with a carriage return, a line feed or the two together as line end. -/
  | crlfLineStart
  | crlfLineEnd
  | wordBoundary (unicode : Bool)
  | notWordBoundary (unicode : Bool)
  | wordStart (unicode : Bool)
  | wordEnd (unicode : Bool)
  /-- No word character before. -/
  | wordStartHalf (unicode : Bool)
  /-- No word character after. -/
  | wordEndHalf (unicode : Bool)
  deriving DecidableEq, Repr

namespace Assertion

def isWord (unicode : Bool) (neighbour : Option Char) : Bool :=
  neighbour.any (isWordChar unicode)

def holds (before after : Option Char) : Assertion → Bool
  | textStart => before.isNone
  | textEnd => after.isNone
  | lineStart => before.isNone || before == some '\n'
  | lineEnd => after.isNone || after == some '\n'
  | crlfLineStart => before.isNone || before == some '\n' || (before == some '\r' && after != some '\n')
  | crlfLineEnd => after.isNone || after == some '\r' || (after == some '\n' && before != some '\r')
  | wordBoundary u => isWord u before != isWord u after
  | notWordBoundary u => isWord u before == isWord u after
  | wordStart u => !isWord u before && isWord u after
  | wordEnd u => isWord u before && !isWord u after
  | wordStartHalf u => !isWord u before
  | wordEndHalf u => !isWord u after

end Assertion

end PatternGrammar.Regex
