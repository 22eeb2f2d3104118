import PatternGrammar.Config.ByteStream

/-!
# Numbers in streams

The digits of a number are taken one at a time. A number grows with them as long as it fits; how many more there are is
all that is kept of the others.
-/

namespace PatternGrammar.Config.FromStream

/-- Puts the digits that come next behind a number as long as it stays up to `most`; gives the number, and `count` with
the number of these digits added. -/
def absorbFrom (most : Nat) : Nat → Nat → Nat → FromStream (Nat × Nat)
  | 0, n, count => return (n, count)
  | fuel + 1, n, count => do
    match ← peek with
    | none => return (n, count)
    | some d =>
      let longer := n * 10 + (d.toNat - 0x30)
      if isDigit d && longer ≤ most then
        discard
        absorbFrom most fuel longer (count + 1)
      else return (n, count)

/-- Puts the digits that come next behind a number as long as it stays up to `most`; gives the number and the number of
these digits. -/
def absorb (most n : Nat) : FromStream (Nat × Nat) := do
  absorbFrom most ((← get).left + 1) n 0

/-! ## Reading -/

def floatNumber (negative : Bool) (significand : Nat) (exponent : Int) : FromStream Number :=
  match scale? 5 significand.toUInt64.toFloat exponent with
  | none => refuse .numberOutOfRange
  | some f => return .floating (floatText negative f)

/-- Takes the sign of an exponent, if there is one, and tells whether it is a minus. -/
def takeSign : FromStream Bool := do
  match ← peek with
  | none => return false
  | some b =>
    if b == 0x2B || b == 0x2D then discard
    return b == 0x2D

def readExponent (negative : Bool) (significand : Nat) (start : Int) : FromStream Number := do
  let down ← takeSign
  match ← take with
  | none => refuse (.endOfInput .value)
  | some first =>
    if !isDigit first then refuse .invalidNumber
    else
      let (exponent, _) ← absorb maxExponent (first.toNat - 0x30)
      -- a digit that is left makes the exponent too large
      if !(← peek).any isDigit then
        floatNumber negative significand (if down then start - exponent else start + exponent)
      else
        discard
        if significand ≠ 0 ∧ !down then refuse .numberOutOfRange
        else
          let _ ← takeWhile isDigit
          return .floating (floatText negative 0)

def readScale (negative : Bool) (significand : Nat) (exponent : Int) : FromStream Number := do
  if (← peek).any isExponentMark then
    discard
    readExponent negative significand exponent
  else floatNumber negative significand exponent

/-- Reads the digits after a point. The power of ten of the digits before is `exponent`. -/
def readFraction (negative : Bool) (significand : Nat) (exponent : Int) : FromStream Number := do
  let (significand, fitting) ← absorb maxInteger significand
  let dropped ← takeWhile isDigit
  if fitting + dropped = 0 then
    match ← peek with
    | none => refuse (.endOfInput .value)
    | some _ => refuse .invalidNumber
  else readScale negative significand (exponent - fitting)

/-- Reads what follows the digits before the point, of which the last `dropped` are not in `n`. -/
def readAfterWhole (negative : Bool) (n dropped : Nat) : FromStream Number := do
  let b? ← peek
  if b? = some 0x2E then
    discard
    readFraction negative n dropped
  else if b?.any isExponentMark then
    discard
    readExponent negative n dropped
  else if dropped = 0 then return integer negative n
  else floatNumber negative n dropped

def readNumber (negative : Bool) : FromStream Number := do
  match ← take with
  | none => refuse (.endOfInput .value)
  | some first =>
    if !isDigit first then refuse .invalidNumber
    else if first == 0x30 then
      -- a zero stands in front of no other digit
      if (← peek).any isDigit then refuse .invalidNumber else readAfterWhole negative 0 0
    else
      let (n, _) ← absorb maxInteger (first.toNat - 0x30)
      let dropped ← takeWhile isDigit
      readAfterWhole negative n dropped

/-! ## Skipping -/

def skipExponent : FromStream Unit := do
  let _ ← takeSign
  if (← take).any isDigit then
    let _ ← takeWhile isDigit
  else refuse .invalidNumber

def skipScale : FromStream Unit := do
  if (← peek).any isExponentMark then
    discard
    skipExponent

def skipFraction : FromStream Unit := do
  if (← takeWhile isDigit) = 0 then refuse .invalidNumber else skipScale

def skipAfterWhole : FromStream Unit := do
  if (← peek) = some 0x2E then
    discard
    skipFraction
  else skipScale

def skipNumber : FromStream Unit := do
  match ← take with
  | none => refuse .invalidNumber
  | some first =>
    if !isDigit first then refuse .invalidNumber
    else if first == 0x30 then
      if (← peek).any isDigit then refuse .invalidNumber else skipAfterWhole
    else
      let _ ← takeWhile isDigit
      skipAfterWhole

end PatternGrammar.Config.FromStream
