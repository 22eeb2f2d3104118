import PatternGrammar.Config.ByteStream

/-!
# Strings in streams

A string is read after its opening quote. Its bytes are gathered first, those of the characters that its escapes stand
for among them, and only then asked which characters they are.
-/

namespace PatternGrammar.Config.FromStream

def takeInString : FromStream UInt8 := do
  match ← take with
  | none => refuse (.endOfInput .string)
  | some b => return b

def takeManyInString : Nat → FromStream (List UInt8)
  | 0 => return []
  | n + 1 => do
    let b ← takeInString
    let bytes ← takeManyInString n
    return b :: bytes

def readFourDigits : FromStream Nat := do
  match fourDigits? (← takeManyInString 4) with
  | none => refuse .invalidEscape
  | some n => return n

def readPairByte (b : UInt8) : FromStream Unit := do
  if (← takeInString) == b then return () else refuse .surrogateUnfinished

def readNumberedChar : FromStream Char := do
  let n ← readFourDigits
  -- a trailing surrogate may only come second
  if isTrailing n then refuse .loneSurrogate
  else if !isLeading n then return Char.ofNat n
  else
    readPairByte 0x5C
    readPairByte 0x75
    let m ← readFourDigits
    if isTrailing m then return Char.ofNat ((n - 0xD800) * 0x400 + (m - 0xDC00) + 0x10000)
    else refuse .loneSurrogate

def readEscape : FromStream Char := do
  let b ← takeInString
  if b == 0x75 then readNumberedChar
  else
    match plainEscape? b with
    | some ch => return ch
    | none => refuse .invalidEscape

/-- Gathers the bytes of a string up to its closing quote, which is left behind. Those before are in `taken`,
backwards. -/
def readStringFrom : Nat → List UInt8 → FromStream (List UInt8)
  | 0, _ => refuse (.endOfInput .string)
  | fuel + 1, taken => do
    let b ← takeInString
    if b == 0x22 then return taken.reverse
    else if b == 0x5C then
      let ch ← readEscape
      readStringFrom fuel ((String.utf8EncodeChar ch).reverse ++ taken)
    else if b.toNat < 0x20 then refuse .controlCharacter
    else readStringFrom fuel (b :: taken)

/-- Reads a string after its opening quote. If its bytes are no characters, the place reported is as far back as they
are many from the first wrong one on. -/
def readString : FromStream (List Char) := do
  let bytes ← readStringFrom ((← get).left + 1) []
  let (chars, wrong) := Text.decode bytes
  if wrong.isEmpty then return chars else refuseBack .invalidCharacter wrong.length

def skipEscape : FromStream Unit := do
  let b ← takeInString
  if b == 0x75 then
    let _ ← readFourDigits
  else if (plainEscape? b).isSome then return ()
  else refuse .invalidEscape

def skipStringFrom : Nat → FromStream Unit
  | 0 => refuse (.endOfInput .string)
  | fuel + 1 => do
    let b ← takeInString
    if b == 0x22 then return ()
    else if b == 0x5C then
      skipEscape
      skipStringFrom fuel
    else if b.toNat < 0x20 then refuse .controlCharacter
    else skipStringFrom fuel

def skipString : FromStream Unit := do
  skipStringFrom ((← get).left + 1)

end PatternGrammar.Config.FromStream
