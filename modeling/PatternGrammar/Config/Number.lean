import PatternGrammar.Config.Fault
import PatternGrammar.Decimal.Shortest

/-!
# Numbers

A number without fraction and exponent is an integer as long as it fits in 64 bits. All others are floating-point
numbers; no option has one as its value, so they matter for messages only.
-/

namespace PatternGrammar.Config

inductive Number where
  /-- An integer below `2 ^ 64`. -/
  | unsigned (n : Nat)
  /-- The negative of a positive integer up to `2 ^ 63`. -/
  | negative (n : Nat)
  | floating (text : List Char)
  deriving DecidableEq, Repr

def Number.found : Number → Found
  | unsigned n => .integer n
  | negative n => .integer (-n)
  | floating text => .floating text

/-! ## Digits -/

def isDigit (b : UInt8) : Bool :=
  decide (0x30 ≤ b.toNat ∧ b.toNat ≤ 0x39)

def isExponentMark (b : UInt8) : Bool :=
  b == 0x65 || b == 0x45

/-- The digits at a cursor, and the cursor after them, where the byte that ends them has been looked at. -/
def takeDigits (c : Cursor) : List UInt8 × Cursor :=
  let digits := c.rest.takeWhile isDigit
  (digits, (c.eatMany digits.length).look)

/-- Puts digits behind a number as long as it stays up to `most`; gives the number and the digits that did not fit. -/
def absorb (most : Nat) : Nat → List UInt8 → Nat × List UInt8
  | n, [] => (n, [])
  | n, d :: ds =>
      let longer := n * 10 + (d.toNat - 0x30)
      if longer > most then (n, d :: ds) else absorb most longer ds

def maxInteger : Nat :=
  18446744073709551615

/-- The largest exponent that is read in full. -/
def maxExponent : Nat :=
  2147483647

/-! ## Floating-point numbers -/

def tenTo (n : Nat) : Float :=
  Float.ofScientific 1 false n

/-- A significand times a power of ten, computed in double precision; nothing where that overflows. Exponents beyond the
largest power of ten are taken in steps of it. -/
def scale? : Nat → Float → Int → Option Float
  | 0, f, _ => some f
  | fuel + 1, f, exponent =>
    if exponent.natAbs ≤ 308 then
      if exponent ≥ 0 then
        let product := f * tenTo exponent.natAbs
        if product.isInf then none else some product
      else some (f / tenTo exponent.natAbs)
    else if f == 0 then some f
    else if exponent ≥ 0 then none
    else scale? fuel (f / tenTo 308) (exponent + 308)

/-- Floating-point numbers have an exponent if they are below `0.00001` or have more than 16 digits before the point. -/
def floatStyle : Decimal.Style :=
  ⟨-5, 15⟩

def floatText (negative : Bool) (f : Float) : List Char :=
  floatStyle.writeBits negative f.toBits.toNat

def floatNumber (negative : Bool) (significand : Nat) (exponent : Int) (c : Cursor) :
    Except Failure (Number × Cursor) :=
  match scale? 5 significand.toUInt64.toFloat exponent with
  | none => refuse .numberOutOfRange c
  | some f => .ok (.floating (floatText negative f), c)

/-- Whether a minus stands in front of the digits of an exponent, and the cursor after the sign. -/
def takeSign (c : Cursor) : Bool × Cursor :=
  match c.head? with
  | some b => if b == 0x2B then (false, c.eat) else if b == 0x2D then (true, c.eat) else (false, c.look)
  | none => (false, c)

/-- Reads the exponent of a number; the cursor stands after its mark. -/
def readExponent (negative : Bool) (significand : Nat) (start : Int) (c : Cursor) :
    Except Failure (Number × Cursor) :=
  let (down, c) := takeSign c
  match c.head? with
  | none => refuse (.endOfInput .value) c
  | some b =>
    if !isDigit b then refuse .invalidNumber c.eat
    else
      let (digits, after) := takeDigits c
      let (exponent, dropped) := absorb maxExponent 0 digits
      if dropped.isEmpty then
        floatNumber negative significand (if down then start - exponent else start + exponent) after
      -- with such an exponent a number is out of range, unless it is zero or next to it
      else if significand ≠ 0 ∧ !down then
        refuse .numberOutOfRange (c.eatMany (digits.length - dropped.length + 1))
      else .ok (.floating (floatText negative 0), after)

def readScale (negative : Bool) (significand : Nat) (exponent : Int) (c : Cursor) :
    Except Failure (Number × Cursor) :=
  match c.head? with
  | some b =>
    if isExponentMark b then readExponent negative significand exponent c.eat
    else floatNumber negative significand exponent c
  | none => floatNumber negative significand exponent c

/-- Reads the digits after a point; the cursor stands before them. The power of ten of the digits before is
`exponent`. -/
def readFraction (negative : Bool) (significand : Nat) (exponent : Int) (c : Cursor) :
    Except Failure (Number × Cursor) :=
  let (digits, after) := takeDigits c
  if digits.isEmpty then
    match c.head? with
    | none => refuseNext (.endOfInput .value) c
    | some _ => refuseNext .invalidNumber c
  else
    let (significand, dropped) := absorb maxInteger significand digits
    readScale negative significand (exponent - (digits.length - dropped.length : Nat)) after

/-! ## All numbers -/

/-- The absolute value of the least integer of 64 bits. -/
def maxNegative : Nat :=
  9223372036854775808

def integer (negative : Bool) (n : Nat) : Number :=
  if !negative then .unsigned n
  else if 0 < n ∧ n ≤ maxNegative then .negative n
  -- minus zero and what lies below 64 bits are no integers
  else .floating (floatText true n.toUInt64.toFloat)

/-- The digits before the point of a number, of which the first is `first`; a zero stands alone. -/
def takeWhole (first : UInt8) (c : Cursor) : List UInt8 × Cursor :=
  if first == 0x30 then ([first], c.eat.look) else takeDigits c

/-- Reads a number after its sign. -/
def readNumber (negative : Bool) (c : Cursor) : Except Failure (Number × Cursor) :=
  match c.head? with
  | none => refuse (.endOfInput .value) c
  | some first =>
    if !isDigit first then refuse .invalidNumber c.eat
    else
      let (digits, after) := takeWhole first c
      -- a zero stands in front of no other digit
      if first == 0x30 && after.head?.any isDigit then refuseNext .invalidNumber after
      else
        let (n, dropped) := absorb maxInteger 0 digits
        match after.head? with
        | some b =>
          if b == 0x2E then readFraction negative n dropped.length after.eat
          else if isExponentMark b then readExponent negative n dropped.length after.eat
          else if dropped.isEmpty then .ok (integer negative n, after)
          else floatNumber negative n dropped.length after
        | none =>
          if dropped.isEmpty then .ok (integer negative n, after)
          else floatNumber negative n dropped.length after

/-! ## Skipping -/

def skipExponent (c : Cursor) : Except Failure Cursor :=
  let c := (takeSign c).2
  match c.head? with
  | none => refuse .invalidNumber c
  | some b => if isDigit b then .ok (takeDigits c).2 else refuse .invalidNumber c.eat

def skipScale (c : Cursor) : Except Failure Cursor :=
  match c.head? with
  | some b => if isExponentMark b then skipExponent c.eat else .ok c
  | none => .ok c

def skipFraction (c : Cursor) : Except Failure Cursor :=
  let (digits, after) := takeDigits c
  if digits.isEmpty then refuseNext .invalidNumber c else skipScale after

/-- Skips a number after its sign, whatever its size. -/
def skipNumber (c : Cursor) : Except Failure Cursor :=
  match c.head? with
  | none => refuse .invalidNumber c
  | some first =>
    if !isDigit first then refuse .invalidNumber c.eat
    else
      let after := (takeWhole first c).2
      if first == 0x30 && after.head?.any isDigit then refuseNext .invalidNumber after
      else
        match after.head? with
        | some b => if b == 0x2E then skipFraction after.eat else skipScale after
        | none => .ok after

end PatternGrammar.Config
