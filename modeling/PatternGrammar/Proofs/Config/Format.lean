import PatternGrammar.Config
import PatternGrammar.Proofs.Config.Json

/-!
# The format of options

The texts that write options: an object with some of them by name, each at most once, among any other members, or an
array with the first few of them in order. An option's value has one spelling: `true` or `false` for a truth value, and
for a limit its decimal digits without sign, fraction and exponent.
-/

namespace PatternGrammar.Config

open Json (Blanks Key Spells)

/-! ## Values of options -/

/-- The values an option may have. -/
def Field.Value : Field → Type
  | .caseInsensitive | .multiLine | .dotMatchesNewLine => Bool
  | .sizeLimit => UInt64
  | .nestLimit => UInt32

def get (c : Config) : (f : Field) → f.Value
  | .caseInsensitive => c.caseInsensitive
  | .multiLine => c.multiLine
  | .dotMatchesNewLine => c.dotMatchesNewLine
  | .sizeLimit => c.sizeLimit
  | .nestLimit => c.nestLimit

/-- Options with the same values are the same. -/
theorem eq_of_get {c d : Config} (h : ∀ f, c.get f = d.get f) : c = d := by
  obtain ⟨caseInsensitive, multiLine, dotMatchesNewLine, sizeLimit, nestLimit⟩ := c
  obtain rfl : caseInsensitive = d.caseInsensitive := h .caseInsensitive
  obtain rfl : multiLine = d.multiLine := h .multiLine
  obtain rfl : dotMatchesNewLine = d.dotMatchesNewLine := h .dotMatchesNewLine
  obtain rfl : sizeLimit = d.sizeLimit := h .sizeLimit
  obtain rfl : nestLimit = d.nestLimit := h .nestLimit
  rfl

def flagText : Bool → Text
  | true => "true".toList
  | false => "false".toList

def Field.literal : (f : Field) → f.Value → Text
  | .caseInsensitive, b | .multiLine, b | .dotMatchesNewLine, b => flagText b
  | .sizeLimit, n => Nat.toDigits 10 (UInt64.toNat n)
  | .nestLimit, n => Nat.toDigits 10 (UInt32.toNat n)

/-! ## Lists and objects of options -/

/-- An element of a list, or a member of an object, and the options it writes. -/
inductive Entry (c : Config) : Bracket → List Field → Text → Prop where
  | element {f : Field} {blanks : Text} : Blanks blanks → Entry c .list [f] (blanks ++ f.literal (c.get f))
  | known {f : Field} {key blanks : Text} : Key (Spells f.name.toList) key → Blanks blanks →
      Entry c .object [f] (key ++ (blanks ++ f.literal (c.get f)))
  | unknown {name key blanks value : Text} : Key (Spells name) key → (∀ f : Field, f.name.toList ≠ name) →
      Blanks blanks → Json.Value value → Entry c .object [] (key ++ (blanks ++ value))

/-- What may follow an entry up to the closing bracket, and the options it writes. -/
inductive Rest (c : Config) (bracket : Bracket) : List Field → Text → Prop where
  | done {blanks : Text} : Blanks blanks → Rest c bracket [] blanks
  | more {fields fields' : List Field} {blanks entry rest : Text} : Blanks blanks → Entry c bracket fields entry →
      Rest c bracket fields' rest → Rest c bracket (fields ++ fields') (blanks ++ ',' :: (entry ++ rest))

/-- What stands between the brackets, and the options it writes. -/
inductive Inside (c : Config) (bracket : Bracket) : List Field → Text → Prop where
  | nothing {blanks : Text} : Blanks blanks → Inside c bracket [] blanks
  | entries {fields fields' : List Field} {entry rest : Text} : Entry c bracket fields entry →
      Rest c bracket fields' rest → Inside c bracket (fields ++ fields') (entry ++ rest)

/-- Which options may be written, in order of their values: in a list the first few, in an object none twice. -/
def Allowed : Bracket → List Field → Prop
  | .list, fields => fields <+: Field.all
  | .object, fields => fields.Nodup

/-- The text writes some of the options, and the others have their standard values. -/
def WrittenAs (c : Config) (text : Text) : Prop :=
  ∃ (bracket : Bracket) (fields : List Field) (before inner after : Text),
    Blanks before ∧ c.Inside bracket fields inner ∧ Blanks after ∧ Allowed bracket fields ∧
      (∀ f, f ∉ fields → c.get f = standard.get f) ∧
      text = before ++ Json.opening bracket :: (inner ++ Json.closing bracket :: after)

end PatternGrammar.Config
