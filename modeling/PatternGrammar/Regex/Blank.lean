import PatternGrammar.CharSet.Standard

/-!
# Ignored text

Under flag `x` white space and comments (from `#` to the end of the line) stand for nothing. A text is then read through
the functions of this module, which give what is left after ignored text. The argument `ignoring` says whether the flag
is on.
-/

namespace PatternGrammar.Regex

def isSpace (c : Char) : Bool :=
  CharSet.spaces.mem c

/-- What is left after ignored text, starting inside a comment or outside. -/
def dropIgnored (inComment : Bool) : List Char → List Char
  | [] => []
  | c :: cs =>
      if inComment then dropIgnored (c != '\n') cs
      else if isSpace c then dropIgnored false cs
      else if c == '#' then dropIgnored true cs
      else c :: cs

/-- What is left after ignored text, if text is ignored. -/
def skipIgnored (ignoring : Bool) (text : List Char) : List Char :=
  if ignoring then dropIgnored false text else text

/-- The visible characters before the first visible one where `stop` holds, and what is left from there. -/
def takeVisible (ignoring : Bool) (stop : Char → Bool) (inComment : Bool) :
    List Char → List Char × List Char
  | [] => ([], [])
  | c :: cs =>
      if inComment then takeVisible ignoring stop (c != '\n') cs
      else if ignoring && isSpace c then takeVisible ignoring stop false cs
      else if ignoring && c == '#' then takeVisible ignoring stop true cs
      else if stop c then ([], c :: cs)
      else
        let (taken, rest) := takeVisible ignoring stop false cs
        (c :: taken, rest)

/-- The first character that is no white space; the first `#` does not count. -/
def firstVisible? (sharpSeen : Bool) : List Char → Option Char
  | [] => none
  | c :: cs =>
      if isSpace c then firstVisible? sharpSeen cs
      else if !sharpSeen && c == '#' then firstVisible? true cs
      else some c

/-- The character that decides whether a `-` in a class is a range: the next one, or under flag `x` the first visible
one. -/
def peekVisible? (ignoring : Bool) (text : List Char) : Option Char :=
  if ignoring then (firstVisible? false text).or text.head? else text.head?

/-- Ignored text is left out, nothing is added. -/
theorem length_dropIgnored_le (inComment : Bool) (text : List Char) :
    (dropIgnored inComment text).length ≤ text.length := by
  induction text generalizing inComment with
  | nil => simp [dropIgnored]
  | cons c cs ih =>
    simp only [dropIgnored]
    split
    · exact Nat.le_succ_of_le (ih _)
    · split
      · exact Nat.le_succ_of_le (ih _)
      · split
        · exact Nat.le_succ_of_le (ih _)
        · exact Nat.le_refl _

theorem length_skipIgnored_le (ignoring : Bool) (text : List Char) :
    (skipIgnored ignoring text).length ≤ text.length := by
  unfold skipIgnored
  split
  · exact length_dropIgnored_le false text
  · exact Nat.le_refl _

end PatternGrammar.Regex
