/-!
# Spans of a pattern

A place in a pattern is given by the number of characters from there to the end. Reading a pattern then needs no
position beside the text that is left, and a span of a text stays the same when other text is put in front of it.
-/

namespace PatternGrammar.Regex

/-- A piece of a pattern: the number of characters left at its start and at its end. -/
structure Span where
  start : Nat
  stop : Nat
  deriving DecidableEq, Repr

namespace Span

def between (start stop : List Char) : Span :=
  ⟨start.length, stop.length⟩

def here (rest : List Char) : Span :=
  between rest rest

def first (rest : List Char) : Span :=
  between rest (rest.drop 1)

def through (s t : Span) : Span :=
  ⟨s.start, t.stop⟩

end Span

end PatternGrammar.Regex
