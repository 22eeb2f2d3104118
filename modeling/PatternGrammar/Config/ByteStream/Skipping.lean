import PatternGrammar.Config.ByteStream.Number
import PatternGrammar.Config.ByteStream.Quotation

/-!
# Skipped values in streams

Of the value of an unknown member only the brackets that are open are kept.
-/

namespace PatternGrammar.Config.FromStream

def skipKey : FromStream Unit := do
  if (← skipToByte .object) == 0x22 then
    discard
    skipString
    readColon
  else refuse .keyNotString

def skipToValue : Bracket → FromStream Unit
  | .list => return ()
  | .object => skipKey

/-- Skips a value that is neither list nor object, of which the first byte `b` is held. -/
def skipScalar (b : UInt8) : FromStream Unit := do
  if b == 0x6E then
    discard
    readWord nullRest
  else if b == 0x74 then
    discard
    readWord trueRest
  else if b == 0x66 then
    discard
    readWord falseRest
  else if b == 0x2D then
    discard
    skipNumber
  else if isDigit b then skipNumber
  else if b == 0x22 then
    discard
    skipString
  else refuse .valueExpected

/-- Skips on inside open brackets, the innermost in front: a value that has to come next or, if `done`, what follows a
value. Each step but the last takes at least one byte, so the fuel is one more than the number of bytes. -/
def skipFrom : Nat → Bool → List Bracket → FromStream Unit
  | 0, _, _ => do
    let _ ← peek
    refuse (.endOfInput .value)
  | fuel + 1, false, outer => do
    let b ← skipToByte .value
    match opening? b with
    | none =>
      skipScalar b
      skipFrom fuel true outer
    | some bracket =>
      discard
      -- an empty list or object is a value that is done
      if (← skipToByte bracket.inside) == bracket.closing then
        discard
        skipFrom fuel true outer
      else
        skipToValue bracket
        skipFrom fuel false (bracket :: outer)
  | _ + 1, true, [] => return ()
  | fuel + 1, true, bracket :: outer => do
    let b ← skipToByte bracket.inside
    if b == bracket.closing then
      discard
      skipFrom fuel true outer
    else if b == 0x2C then
      discard
      skipToValue bracket
      skipFrom fuel false (bracket :: outer)
    else refuse bracket.commaCause

def skipValue : FromStream Unit := do
  skipFrom ((← get).left + 1) false []

end PatternGrammar.Config.FromStream
