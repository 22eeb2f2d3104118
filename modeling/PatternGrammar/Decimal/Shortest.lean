/-!
# Shortest decimals

A binary floating-point number stands for all reals that round to it. It is written with the fewest digits that lie in
that interval; of several decimals with so many digits the nearest is taken, and of two equally near ones the even one.
Everything is done on natural numbers: a number `m * 2 ^ e` is compared with `d * 10 ^ k` after both are brought to
whole numbers.
-/

namespace PatternGrammar.Decimal

/-- `2` to the power 52, the digit before the fraction of a double, which is not stored. -/
def hiddenBit : Nat :=
  4503599627370496

/-- The fraction and exponent of a finite positive double from its bits: the number is the fraction times `2` to the
exponent. -/
def parts (bits : Nat) : Nat × Int :=
  let fraction := bits % hiddenBit
  let biased := bits / hiddenBit % 2048
  if biased = 0 then (fraction, -1074) else (fraction + hiddenBit, (biased : Int) - 1075)

/-- `a * b ^ e` as a quotient of natural numbers. -/
def scaled (a b : Nat) (e : Int) : Nat × Nat :=
  match e with
  | .ofNat n => (a * Nat.pow b n, 1)
  | .negSucc n => (a, Nat.pow b (n + 1))

/-- The interval of reals that round to a double, as the numerators of its ends and of the double itself over one
denominator. -/
structure Interval where
  low : Nat
  value : Nat
  high : Nat
  denominator : Nat
  /-- Whether the ends belong to the interval. -/
  closed : Bool
  deriving DecidableEq, Repr

/-- The reals that round to `m * 2 ^ e`. Below a power of two the next number is half as far away as above it. -/
def interval (m : Nat) (e : Int) : Interval :=
  -- in quarters of the distance to the next number above
  let (below, above) := if m = hiddenBit ∧ e > -1074 then (1, 2) else (2, 2)
  let (num, den) := scaled 1 2 (e - 2)
  ⟨(4 * m - below) * num, 4 * m * num, (4 * m + above) * num, den, m % 2 == 0⟩

namespace Interval

/-- Whether `d * 10 ^ k` lies in the interval. -/
def holds (i : Interval) (d : Nat) (k : Int) : Bool :=
  let (num, den) := scaled d 10 k
  let x := num * i.denominator
  if i.closed then decide (i.low * den ≤ x ∧ x ≤ i.high * den) else decide (i.low * den < x ∧ x < i.high * den)

/-- The best decimal with exponent `k` in the interval. One of the two neighbours of the number on the grid of that
exponent is in it if any decimal of the grid is. -/
def pick? (i : Interval) (k : Int) : Option Nat :=
  let (unitNum, unitDen) := scaled 1 10 k
  let num := i.value * unitDen
  let den := i.denominator * unitNum
  let down := num / den
  let up := down + 1
  match i.holds down k, i.holds up k with
  | true, true =>
      -- the nearer one, and of two equally near ones the even one
      let twice := 2 * (num % den)
      if twice < den then some down
      else if den < twice then some up
      else if down % 2 = 0 then some down else some up
  | true, false => some down
  | false, true => some up
  | false, false => none

/-- The first decimal found on ever finer grids, starting with exponent `k`. -/
def shortest (i : Interval) : Nat → Int → Nat × Int
  | 0, k => (i.value, k)
  | fuel + 1, k =>
    match i.pick? k with
    | some d => (d, k)
    | none => i.shortest fuel (k - 1)

end Interval

/-- The shortest decimal of a positive double given by its bits: the digits as one number, and the exponent of ten. -/
def shortest (bits : Nat) : Nat × Int :=
  let (m, e) := parts bits
  (interval m e).shortest 700 309

/-! ## Writing -/

/-- How a decimal is written: the least and the largest exponent of its first digit that is not written. -/
structure Style where
  firstPlain : Int
  lastPlain : Int
  deriving DecidableEq, Repr

/-- Digits with a point after the first. -/
def pointed : List Char → List Char
  | [] => []
  | [d] => [d]
  | d :: ds => d :: '.' :: ds

/-- A decimal `d * 10 ^ k` as text. -/
def Style.write (style : Style) (d : Nat) (k : Int) : List Char :=
  let digits := Nat.toDigits 10 d
  let exponent := k + digits.length - 1
  if style.firstPlain ≤ exponent ∧ exponent ≤ style.lastPlain then
    if k ≥ 0 then digits ++ List.replicate k.toNat '0' ++ ['.', '0']
    else if exponent ≥ 0 then
      digits.take (exponent.toNat + 1) ++ '.' :: digits.drop (exponent.toNat + 1)
    else '0' :: '.' :: List.replicate ((-exponent).toNat - 1) '0' ++ digits
  else
    pointed digits ++ ['e', if exponent < 0 then '-' else '+'] ++ Nat.toDigits 10 exponent.natAbs

/-- A double as text, given its sign and the bits below it. -/
def Style.writeBits (style : Style) (negative : Bool) (bits : Nat) : List Char :=
  let sign := if negative then ['-'] else []
  if bits = 0 then sign ++ ['0', '.', '0']
  else
    let (d, k) := shortest bits
    sign ++ style.write d k

end PatternGrammar.Decimal
