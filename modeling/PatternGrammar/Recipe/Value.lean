import PatternGrammar.Pattern
import PatternGrammar.Text.Utf8

/-!
# Values of described parsers

The parsers that a recipe describes all have values of one type, in which the values of different parsers can be mixed:
texts, integers of 64 bits, lists, and functions from values to values that are described by data themselves.
-/

namespace PatternGrammar.Recipe

/-- How a function of several arguments puts them together. -/
inductive Gather where
  | list
  | concat
  | sum
  deriving DecidableEq, Repr

mutual

inductive Value where
  | null
  | bool (b : Bool)
  | int (n : Int)
  | string (text : Text)
  | list (items : List Value)
  | function (f : Function)

/-- A function from values to values. What a function does not apply to it sends to `null`. -/
inductive Function where
  | identity
  | constant (v : Value)
  /-- The empty text for `null`, and all else for itself. -/
  | orEmpty
  /-- The number of bytes of a text or of items of a list. -/
  | length
  /-- The number of characters of a text. -/
  | chars
  /-- The integer that a text writes. -/
  | parseInt
  /-- The first character of a text. -/
  | firstChar
  | add (n : Int)
  | mul (n : Int)
  /-- The texts of a list in a row. -/
  | concat
  /-- The sum of the integers of a list. -/
  | sum
  /-- The item of a list at an index. -/
  | nth (n : Nat)
  /-- The list of the argument. -/
  | wrap
  /-- From a list of an item and a list, the list with the item in front. -/
  | cons
  /-- Some functions one after the other, the first one first. -/
  | compose (fs : List Function)
  /-- Waits for so many more arguments, after those taken, and puts them together. -/
  | collect (remaining : Nat) (gather : Gather) (taken : List Value)

end

namespace Value

instance : Inhabited Value := ⟨null⟩

/-- Whether an integer has 64 bits. -/
def fits (n : Int) : Bool :=
  decide (-9223372036854775808 ≤ n ∧ n < 9223372036854775808)

/-- An integer of 64 bits, or `null` if it has more. -/
def ofInt (n : Int) : Value :=
  if fits n then int n else null

/-- The text of a value; values of other kinds have the empty one. -/
def textOf : Value → Text
  | string text => text
  | _ => []

def concatAll (items : List Value) : Value :=
  string (items.flatMap textOf)

/-- The sum of some integers on top of `total`; all of them, and all sums on the way, have to be integers of 64 bits. -/
def sumFrom (total : Int) : List Value → Value
  | [] => int total
  | int n :: items => if fits (total + n) then sumFrom (total + n) items else null
  | _ :: _ => null

def ofDigits (negative : Bool) (digits : Text) : Value :=
  if digits.isEmpty || !digits.all Char.isDigit then null
  else
    let n : Nat := digits.foldl (fun n d => n * 10 + (d.toNat - '0'.toNat)) 0
    ofInt (if negative then -(n : Int) else n)

/-- The integer that a text writes: a sign or none, and at least one digit. -/
def parseInt : Text → Value
  | '-' :: digits => ofDigits true digits
  | '+' :: digits => ofDigits false digits
  | digits => ofDigits false digits

def byteLength (text : Text) : Nat :=
  text.utf8.length

def gathered : Gather → List Value → Value
  | .list, items => list items
  | .concat, items => concatAll items
  | .sum, items => sumFrom 0 items

end Value

namespace Function

open Value

mutual

def call : Function → Value → Value
  | identity, v => v
  | constant c, _ => c
  | orEmpty, null => string []
  | orEmpty, v => v
  | length, string text => int (byteLength text)
  | length, list items => int items.length
  | length, _ => null
  | chars, string text => int text.length
  | chars, _ => null
  | parseInt, string text => Value.parseInt text
  | parseInt, _ => null
  | firstChar, string (c :: _) => string [c]
  | firstChar, _ => null
  | add n, int m => ofInt (m + n)
  | add _, _ => null
  | mul n, int m => ofInt (m * n)
  | mul _, _ => null
  | concat, list items => concatAll items
  | concat, _ => null
  | sum, list items => sumFrom 0 items
  | sum, _ => null
  | nth n, list items => items.getD n null
  | nth _, _ => null
  | wrap, v => list [v]
  | cons, list [head, list tail] => list (head :: tail)
  | cons, _ => null
  | compose fs, v => callAll fs v
  | collect 0 _ _, _ => null
  -- the last argument: all are there to be put together
  | collect 1 gather taken, v => gathered gather (taken ++ [v])
  | collect (n + 2) gather taken, v => function (collect (n + 1) gather (taken ++ [v]))

/-- The value of some functions one after the other. -/
def callAll : List Function → Value → Value
  | [], v => v
  | f :: fs, v => callAll fs (f.call v)

end

end Function

/-- The value of a value as a function: `null` where it is none. -/
def Value.call : Value → Value → Value
  | function f, v => f.call v
  | _, _ => null

end PatternGrammar.Recipe
