import PatternGrammar.Text

/-!
# Characters as bytes

The encoding of characters in one to four bytes, and its inverse for the character at the start of some bytes.
-/

namespace PatternGrammar.Text

def utf8 (text : Text) : List UInt8 :=
  text.flatMap String.utf8EncodeChar

/-- The six bits of a byte that continues a character. -/
def continuation? (b : UInt8) : Option Nat :=
  if 0x80 ≤ b.toNat ∧ b.toNat < 0xC0 then some (b.toNat - 0x80) else none

/-- The character with number `n`, if it has one and takes no fewer bytes than were used to write it. -/
def charAtLeast? (least n : Nat) : Option Char :=
  if h : least ≤ n ∧ n.isValidChar then some (Char.ofNatAux n h.2) else none

/-- The character at the start of some bytes, and the number of bytes it takes. -/
def firstChar? : List UInt8 → Option (Char × Nat)
  | [] => none
  | a :: rest =>
    let lead := a.toNat
    if lead < 0x80 then (charAtLeast? 0 lead).map (·, 1)
    else
      match rest with
      | [] => none
      | b :: rest =>
        match continuation? b with
        | none => none
        | some b =>
          if 0xC0 ≤ lead ∧ lead < 0xE0 then (charAtLeast? 0x80 ((lead - 0xC0) * 64 + b)).map (·, 2)
          else
            match rest with
            | [] => none
            | c :: rest =>
              match continuation? c with
              | none => none
              | some c =>
                if 0xE0 ≤ lead ∧ lead < 0xF0 then
                  (charAtLeast? 0x800 (((lead - 0xE0) * 64 + b) * 64 + c)).map (·, 3)
                else
                  match rest with
                  | [] => none
                  | d :: _ =>
                    match continuation? d with
                    | none => none
                    | some d =>
                      if 0xF0 ≤ lead ∧ lead < 0xF8 then
                        (charAtLeast? 0x10000 ((((lead - 0xF0) * 64 + b) * 64 + c) * 64 + d)).map (·, 4)
                      else none

/-- The characters at the start of some bytes, of which no more than the fuel are read, and the bytes behind them. -/
def decodeFrom : Nat → List UInt8 → Text × List UInt8
  | 0, bytes => ([], bytes)
  | fuel + 1, bytes =>
    match firstChar? bytes with
    | none => ([], bytes)
    | some (ch, n) =>
      let (chars, wrong) := decodeFrom fuel (bytes.drop n)
      (ch :: chars, wrong)

/-- The characters at the start of some bytes, and the bytes from the first one on that is no part of a character. -/
def decode (bytes : List UInt8) : Text × List UInt8 :=
  decodeFrom bytes.length bytes

end PatternGrammar.Text
