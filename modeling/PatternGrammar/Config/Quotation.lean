import PatternGrammar.Config.Fault
import PatternGrammar.Text.Utf8

/-!
# Strings

A string is read after its opening quote. Its bytes have to be characters and its escapes have to give some; where a
string is only skipped neither is checked, and an escape by number needs no more than four hexadecimal digits.
-/

namespace PatternGrammar.Config

def hexDigit? (b : UInt8) : Option Nat :=
  if isIn 0x30 0x39 then some (b.toNat - 0x30)
  else if isIn 0x61 0x66 then some (b.toNat - 0x61 + 10)
  else if isIn 0x41 0x46 then some (b.toNat - 0x41 + 10)
  else none
where
  isIn (lo hi : Nat) : Bool := decide (lo ≤ b.toNat ∧ b.toNat ≤ hi)

def fourDigits? (bytes : List UInt8) : Option Nat :=
  bytes.foldl (fun n? b => n?.bind fun n => (hexDigit? b).map (n * 16 + ·)) (some 0)

def readFourDigits (c : Cursor) : Except Failure (Nat × Cursor) :=
  if c.rest.length < 4 then refuse (.endOfInput .string) (c.eatMany c.rest.length)
  else
    match fourDigits? (c.rest.take 4) with
    | none => refuse .invalidEscape (c.eatMany 4)
    | some n => .ok (n, c.eatMany 4)

/-- The character that a letter after a backslash stands for. -/
def plainEscape? (b : UInt8) : Option Char :=
  if b == 0x22 then some '"'
  else if b == 0x5C then some '\\'
  else if b == 0x2F then some '/'
  else if b == 0x62 then some '\x08'
  else if b == 0x66 then some '\x0C'
  else if b == 0x6E then some '\n'
  else if b == 0x72 then some '\r'
  else if b == 0x74 then some '\t'
  else none

def isLeading (n : Nat) : Bool :=
  decide (0xD800 ≤ n ∧ n < 0xDC00)

def isTrailing (n : Nat) : Bool :=
  decide (0xDC00 ≤ n ∧ n < 0xE000)

/-- Reads a byte that has to be `b` where a surrogate pair goes on. -/
def readPairByte (b : UInt8) (c : Cursor) : Except Failure Cursor :=
  match c.head? with
  | none => refuse (.endOfInput .string) c
  | some d => if d == b then .ok c.eat else refuse .surrogateUnfinished c.eat

/-- Reads the character given by number after `\u`: one escape, or two for a pair of surrogates. -/
def readNumberedChar (c : Cursor) : Except Failure (Char × Cursor) := do
  let (n, c) ← readFourDigits c
  -- a trailing surrogate may only come second
  if isTrailing n then refuse .loneSurrogate c
  else if !isLeading n then return (Char.ofNat n, c)
  else
    let c ← readPairByte 0x5C c
    let c ← readPairByte 0x75 c
    let (m, c) ← readFourDigits c
    if isTrailing m then return (Char.ofNat ((n - 0xD800) * 0x400 + (m - 0xDC00) + 0x10000), c)
    else refuse .loneSurrogate c

def readEscape (c : Cursor) : Except Failure (Char × Cursor) :=
  match c.head? with
  | none => refuse (.endOfInput .string) c
  | some b =>
    if b == 0x75 then readNumberedChar c.eat
    else
      match plainEscape? b with
      | some ch => .ok (ch, c.eat)
      | none => refuse .invalidEscape c.eat

/-- Reads a string up to its closing quote, which is left behind. The characters before are in `taken`, backwards. Bytes
that are no part of a character do not end the string; from the first of them on `since` counts the bytes of the text so
far, each such byte as one. -/
def readStringFrom : Nat → List Char → Option Nat → Cursor → Except Failure (List Char × Option Nat × Cursor)
  | 0, _, _, c => refuse (.endOfInput .string) c
  | fuel + 1, taken, since, c =>
    match c.head? with
    | none => refuse (.endOfInput .string) c
    | some b =>
      if b == 0x22 then .ok (taken.reverse, since, c.eat)
      else if b == 0x5C then
        match readEscape c.eat with
        | .error e => .error e
        | .ok (ch, c) => readStringFrom fuel (ch :: taken) (since.map (· + ch.utf8Size)) c
      else if b.toNat < 0x20 then refuse .controlCharacter c.eat
      else
        -- a quote or backslash behind a wrong byte still counts, so the bytes are taken one by one
        match Text.firstChar? c.rest with
        | some (ch, n) => readStringFrom fuel (ch :: taken) (since.map (· + n)) (c.eatMany n)
        | none => readStringFrom fuel taken (some (since.getD 0 + 1)) c.eat

/-- Reads a string after its opening quote. Whether its bytes are characters is asked once it is known to end; the place
reported then is as far before its end as the bytes from the first wrong one on are many, escapes counted as what they
stand for. -/
def readString (c : Cursor) : Except Failure (List Char × Cursor) :=
  match readStringFrom (c.rest.length + 1) [] none c with
  | .error e => .error e
  | .ok (chars, none, after) => .ok (chars, after)
  | .ok (_, some count, after) => refuse .invalidCharacter (c.eatMany (c.rest.length - after.rest.length - count))

def skipEscape (c : Cursor) : Except Failure Cursor :=
  match c.head? with
  | none => refuse (.endOfInput .string) c
  | some b =>
    if b == 0x75 then (readFourDigits c.eat).map (·.2)
    else if (plainEscape? b).isSome then .ok c.eat
    else refuse .invalidEscape c.eat

def skipStringFrom : Nat → Cursor → Except Failure Cursor
  | 0, c => refuse (.endOfInput .string) c
  | fuel + 1, c =>
    match c.head? with
    | none => refuse (.endOfInput .string) c
    | some b =>
      if b == 0x22 then .ok c.eat
      else if b == 0x5C then
        match skipEscape c.eat with
        | .error e => .error e
        | .ok c => skipStringFrom fuel c
      else if b.toNat < 0x20 then refuse .controlCharacter c.look
      else skipStringFrom fuel c.eat

/-- Skips a string after its opening quote. -/
def skipString (c : Cursor) : Except Failure Cursor :=
  skipStringFrom (c.rest.length + 1) c

end PatternGrammar.Config
