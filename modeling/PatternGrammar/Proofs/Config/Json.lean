import PatternGrammar.Config.Skipping
import PatternGrammar.Regex.Tree.Escape

/-!
# JSON

The grammar of RFC 8259, on characters: which texts are numbers, strings and values, and which text a string stands for.
Any string is a value; only where it stands for a text do its numbered escapes have to be characters, alone or as a pair
of surrogates.
-/

namespace PatternGrammar.Json

open Config (Bracket)
open Regex (hexValue?)

def Blanks (t : Text) : Prop :=
  ∀ ch ∈ t, ch ∈ [' ', '\n', '\t', '\r']

/-! ## Numbers -/

def Digits (t : Text) : Prop :=
  t ≠ [] ∧ ∀ ch ∈ t, ch.isDigit

/-- The digits before the point: a zero stands alone. -/
def Whole (t : Text) : Prop :=
  Digits t ∧ (t.head? = some '0' → t = ['0'])

inductive Fraction : Text → Prop where
  | none : Fraction []
  | some {digits : Text} : Digits digits → Fraction ('.' :: digits)

inductive Exponent : Text → Prop where
  | none : Exponent []
  | some {mark : Char} {sign digits : Text} : mark ∈ ['e', 'E'] → sign ∈ [[], ['+'], ['-']] → Digits digits →
      Exponent (mark :: (sign ++ digits))

inductive Unsigned : Text → Prop where
  | mk {whole fraction exponent : Text} : Whole whole → Fraction fraction → Exponent exponent →
      Unsigned (whole ++ fraction ++ exponent)

inductive Number : Text → Prop where
  | positive {t : Text} : Unsigned t → Number t
  | negative {t : Text} : Unsigned t → Number ('-' :: t)

/-! ## Strings -/

/-- Whether a character stands for itself in a string. -/
def Plain (ch : Char) : Prop :=
  0x20 ≤ ch.toNat ∧ ch ≠ '"' ∧ ch ≠ '\\'

/-- The letters after a backslash, and what they stand for. -/
def escapes : List (Char × Char) :=
  [('"', '"'), ('\\', '\\'), ('/', '/'), ('b', '\x08'), ('f', '\x0C'), ('n', '\n'), ('r', '\r'), ('t', '\t')]

def FourDigits (n : Nat) (t : Text) : Prop :=
  ∃ values : List Nat, values.length = 4 ∧ t.map hexValue? = values.map some ∧ n = values.foldl (· * 16 + ·) 0

/-- What may follow a backslash. -/
inductive AnyEscape : Text → Prop where
  | letter {letter ch : Char} : (letter, ch) ∈ escapes → AnyEscape [letter]
  | numbered {n : Nat} {digits : Text} : FourDigits n digits → AnyEscape ('u' :: digits)

/-- What may stand between the quotes of a string. -/
inductive Body : Text → Prop where
  | nil : Body []
  | plain {ch : Char} {t : Text} : Plain ch → Body t → Body (ch :: t)
  | escape {e t : Text} : AnyEscape e → Body t → Body ('\\' :: (e ++ t))

/-- What follows a backslash where both stand for a character. -/
inductive Escape : Char → Text → Prop where
  | letter {letter ch : Char} : (letter, ch) ∈ escapes → Escape ch [letter]
  | numbered {n : Nat} {digits : Text} : FourDigits n digits → ¬ (0xD800 ≤ n ∧ n < 0xE000) →
      Escape (Char.ofNat n) ('u' :: digits)
  | pair {high low : Nat} {digits digits' : Text} : FourDigits high digits → FourDigits low digits' →
      0xD800 ≤ high → high < 0xDC00 → 0xDC00 ≤ low → low < 0xE000 →
      Escape (Char.ofNat ((high - 0xD800) * 0x400 + (low - 0xDC00) + 0x10000))
        ('u' :: (digits ++ '\\' :: 'u' :: digits'))

/-- The second argument stands between the quotes of a string that stands for the first. -/
inductive Spells : Text → Text → Prop where
  | nil : Spells [] []
  | plain {ch : Char} {s t : Text} : Plain ch → Spells s t → Spells (ch :: s) (ch :: t)
  | escape {ch : Char} {e s t : Text} : Escape ch e → Spells s t → Spells (ch :: s) ('\\' :: (e ++ t))

/-- A key with a given kind of text between its quotes, and the colon after it. -/
def Key (body : Text → Prop) (t : Text) : Prop :=
  ∃ before inner after, Blanks before ∧ body inner ∧ Blanks after ∧
    t = before ++ '"' :: (inner ++ '"' :: (after ++ [':']))

/-! ## Values -/

def opening : Bracket → Char
  | .list => '['
  | .object => '{'

def closing : Bracket → Char
  | .list => ']'
  | .object => '}'

/-- What stands before a value inside brackets: in an object its key. -/
def Lead : Bracket → Text → Prop
  | .list, t => t = []
  | .object, t => Key Body t

/-- A value that is neither list nor object. -/
inductive Scalar : Text → Prop where
  | null : Scalar "null".toList
  | true : Scalar "true".toList
  | false : Scalar "false".toList
  | number {t : Text} : Number t → Scalar t
  | string {t : Text} : Body t → Scalar ('"' :: (t ++ ['"']))

mutual

inductive Value : Text → Prop where
  | scalar {t : Text} : Scalar t → Value t
  | empty (bracket : Bracket) {blanks : Text} : Blanks blanks →
      Value (opening bracket :: (blanks ++ [closing bracket]))
  | filled (bracket : Bracket) {items : Text} : Items bracket items →
      Value (opening bracket :: (items ++ [closing bracket]))

/-- One or more values inside brackets, with commas between them. -/
inductive Items : Bracket → Text → Prop where
  | last {bracket : Bracket} {lead before value after : Text} : Lead bracket lead → Blanks before → Value value →
      Blanks after → Items bracket (lead ++ (before ++ value ++ after))
  | more {bracket : Bracket} {lead before value after items : Text} : Lead bracket lead → Blanks before →
      Value value → Blanks after → Items bracket items →
      Items bracket (lead ++ (before ++ value ++ after) ++ ',' :: items)

end

end PatternGrammar.Json
