import PatternGrammar.Regex.Fault

/-!
# The report on a refused pattern

A report shows the pattern with carets under the places that are at fault, and ends with the cause. A pattern of several
lines is shown between two rules with its lines numbered, and a span over several lines is described in words.
-/

namespace PatternGrammar.Regex

/-- A place in a pattern as people count: the first character of the first line is at line 1, column 1. -/
structure Position where
  line : Nat
  column : Nat
  deriving DecidableEq, Repr

namespace Position

def after (p : Position) (c : Char) : Position :=
  if c == '\n' then ⟨p.line + 1, 1⟩ else ⟨p.line, p.column + 1⟩

def ofText (text : List Char) : Position :=
  text.foldl after ⟨1, 1⟩

/-- The place with `left` characters to the end of the pattern. -/
def ofLeft (pattern : List Char) (left : Nat) : Position :=
  ofText (pattern.take (pattern.length - left))

end Position

def dropReturn (line : List Char) : List Char :=
  if line.getLast? = some '\r' then line.dropLast else line

/-- The pieces of a text between its line feeds, the last of them in `line` so far, backwards. -/
def splitLines (line : List Char) : List Char → List (List Char)
  | [] => if line.isEmpty then [] else [line.reverse]
  | c :: cs =>
      if c == '\n' then dropReturn line.reverse :: splitLines [] cs
      else splitLines (c :: line) cs

/-- The lines of a text, without their line ends. A line end at the very end starts no further line. -/
def linesOf (text : List Char) : List (List Char) :=
  splitLines [] text

/-- Spaces to write a number in a field of the given width. -/
def padded (width n : Nat) : String :=
  let digits := toString n
  "".pushn ' ' (width - digits.length) ++ digits

/-- The spans that lie on one line, in order, as the columns where they start and end. -/
def columnsOn (line : Nat) (spans : List (Position × Position)) : List (Nat × Nat) :=
  spans.filterMap fun (s, t) => if s.line = line ∧ t.line = line then some (s.column, t.column) else none

/-- Carets under some spans of a line, of which the first `done` columns are written. -/
def carets (done : Nat) : List (Nat × Nat) → String
  | [] => ""
  | (s, t) :: spans =>
      let blanks := s - 1 - done
      -- a span of no characters is shown by one caret
      let marks := max 1 (t - s)
      "".pushn ' ' blanks ++ "".pushn '^' marks ++ carets (done + blanks + marks) spans

/-- The pattern line by line, each line with the carets that belong to it. -/
def notated (margin : Nat → String) (indent : Nat) (spans : List (Position × Position)) :
    Nat → List (List Char) → String
  | _, [] => ""
  | n, line :: lines =>
      let marks := columnsOn n spans
      margin n ++ String.ofList line ++ "\n" ++
        (if marks.isEmpty then "" else "".pushn ' ' indent ++ carets 0 marks ++ "\n") ++
        notated margin indent spans (n + 1) lines

def crossingNotes (spans : List (Position × Position)) : String :=
  let notes := spans.filterMap fun (s, t) =>
    if s.line = t.line then none
    else some ("on line " ++ toString s.line ++ " (column " ++ toString s.column ++ ") through line " ++
      toString t.line ++ " (column " ++ toString (t.column - 1) ++ ")\n")
  String.join notes

/-- The spans at fault, the one that starts first in front. -/
def SyntaxError.spans (e : SyntaxError) : List Span :=
  match e.other with
  | none => [e.span]
  | some o =>
      if e.span.start > o.start ∨ (e.span.start = o.start ∧ e.span.stop ≥ o.stop) then [e.span, o] else [o, e.span]

def SyntaxError.report (pattern : List Char) (e : SyntaxError) : String :=
  let spans := e.spans.map fun s => (Position.ofLeft pattern s.start, Position.ofLeft pattern s.stop)
  let lines := linesOf pattern
  -- a line feed at the very end counts for the width of the numbers, though it starts no line
  let count := if pattern.getLast? = some '\n' then lines.length + 1 else lines.length
  let width := if count ≤ 1 then 0 else (toString count).length
  let margin (n : Nat) : String := if width = 0 then "    " else padded width n ++ ": "
  let indent := if width = 0 then 4 else width + 2
  let body := notated margin indent spans 1 lines
  if pattern.contains '\n' then
    let rule := "".pushn '~' 79 ++ "\n"
    "regex parse error:\n" ++ rule ++ body ++ rule ++ crossingNotes spans ++ "error: " ++ e.fault.message
  else
    "regex parse error:\n" ++ body ++ "error: " ++ e.fault.message

end PatternGrammar.Regex
