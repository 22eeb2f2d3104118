import PatternGrammar.CharSet.Standard
import PatternGrammar.Text

/-!
# Quoted text

A text between double quotes, in which quotes, backslashes and everything that has no shape of its own are escaped.
-/

namespace PatternGrammar.Text

/-- The digits of a number in base 16, without leading zeros. -/
def hexDigits (n : Nat) : Text :=
  Nat.toDigits 16 n

def quotedChar (c : Char) : Text :=
  if c == '"' then ['\\', '"']
  else if c == '\\' then ['\\', '\\']
  else if c == '\n' then ['\\', 'n']
  else if c == '\r' then ['\\', 'r']
  else if c == '\t' then ['\\', 't']
  else if c == '\x00' then ['\\', '0']
  else if CharSet.printable.mem c then [c]
  else ['\\', 'u', '{'] ++ hexDigits c.toNat ++ ['}']

def quoted (text : Text) : Text :=
  '"' :: text.flatMap quotedChar ++ ['"']

end PatternGrammar.Text
