import PatternGrammar.CharSet
import PatternGrammar.Regex.Assertion

/-!
# Regular expressions

What a pattern means once its flags, names and character sets are settled: an expression over sets of characters,
assertions and numbered capture groups.
-/

namespace PatternGrammar.Regex

inductive Expr where
  /-- Matches the empty text. -/
  | empty
  /-- Matches one character of a set. -/
  | chars (set : CharSet)
  | assertion (a : Assertion)
  | cat (e f : Expr)
  /-- Matches what one of the two matches, preferring the first. -/
  | alt (e f : Expr)
  /-- Capture group `n`. -/
  | group (n : Nat) (e : Expr)
  /-- At least `min` and at most `max` matches of `e` in a row, as many as possible if `greedy`, else as few. -/
  | repetition (min : Nat) (max : Option Nat) (greedy : Bool) (e : Expr)
  deriving DecidableEq, Repr

namespace Expr

/-- Whether the expression is built so that it can match nothing but the empty text. -/
def isEmptyOnly : Expr → Bool
  | empty => true
  | chars _ => false
  | assertion _ => true
  | cat e f => e.isEmptyOnly && f.isEmptyOnly
  | alt e f => e.isEmptyOnly && f.isEmptyOnly
  | group _ e => e.isEmptyOnly
  | repetition _ max _ e => max == some 0 || e.isEmptyOnly

/-- Whether the expression is built so that it may match the empty text. -/
def isNullable : Expr → Bool
  | empty => true
  | chars _ => false
  | assertion _ => true
  | cat e f => e.isNullable && f.isNullable
  | alt e f => e.isNullable || f.isNullable
  | group _ e => e.isNullable
  | repetition min _ _ e => min == 0 || e.isNullable

/-- The parts of an expression that stand in a row; the empty expression has none. -/
def items : Expr → List Expr
  | empty => []
  | cat e f => e.items ++ f.items
  | e => [e]

/-- The branches between which an expression chooses, the preferred ones first. -/
def branches : Expr → List Expr
  | alt e f => e.branches ++ f.branches
  | e => [e]

def ofItems : List Expr → Expr
  | [] => empty
  | [e] => e
  | e :: f :: es => cat e (ofItems (f :: es))

def ofBranches : List Expr → Expr
  | [] => empty
  | [e] => e
  | e :: f :: es => alt e (ofBranches (f :: es))

def sequence (es : List Expr) : Expr :=
  ofItems (es.flatMap items)

/-- A repetition in its simplest form: no second match of what can only match the empty text, no match at all for `{0}`,
and no repetition for `{1}`. -/
def repeated (min : Nat) (max : Option Nat) (greedy : Bool) (e : Expr) : Expr :=
  let lo := if e.isEmptyOnly then Nat.min min 1 else min
  let hi := if e.isEmptyOnly then some ((max.map (Nat.min · 1)).getD 1) else max
  if lo = 0 ∧ hi = some 0 then empty
  else if lo = 1 ∧ hi = some 1 then e
  else repetition lo hi greedy e

end Expr

end PatternGrammar.Regex
