import PatternGrammar.Config.Skipping

/-!
# Streams of bytes

A file is read from a stream, which gives its bytes one after the other and never goes back. At most one byte is held:
it has been looked at, but not been taken. The place of a stream is behind all bytes that have left it, the one that is
held included, and this is the place that is reported when something is wrong.
-/

namespace PatternGrammar.Config

structure ByteStream where
  /-- The bytes that have not left the stream. -/
  unread : List UInt8
  /-- The byte that has been looked at, but not been taken. -/
  held : Option UInt8
  /-- The place behind the bytes that have left the stream. -/
  place : Place
  deriving DecidableEq, Repr

namespace ByteStream

def ofBytes (bytes : List UInt8) : ByteStream :=
  ⟨bytes, none, ⟨1, 0⟩⟩

/-- The stream when a byte is held, unless there are no more. -/
def fetch (s : ByteStream) : ByteStream :=
  match s.held, s.unread with
  | none, b :: unread => ⟨unread, some b, s.place.after b⟩
  | _, _ => s

/-- The stream when no byte is held. -/
def release (s : ByteStream) : ByteStream :=
  { s with held := none }

/-- The number of bytes that can still be taken. -/
def left (s : ByteStream) : Nat :=
  s.unread.length + s.held.toList.length

end ByteStream

/-- A cause, and the place of the stream when it came up. -/
structure Refusal where
  cause : Cause
  place : Place
  deriving DecidableEq, Repr

def Refusal.message (r : Refusal) : String :=
  r.cause.messageAt r.place

/-- What is made of the next bytes of a stream. -/
abbrev FromStream (α : Type) : Type :=
  StateT ByteStream (Except Refusal) α

namespace FromStream

/-! ## Single bytes -/

def peek : FromStream (Option UInt8) := fun s =>
  .ok (s.fetch.held, s.fetch)

def take : FromStream (Option UInt8) := fun s =>
  .ok (s.fetch.held, s.fetch.release)

def discard : FromStream Unit := fun s =>
  .ok ((), s.release)

def refuse {α : Type} (cause : Cause) : FromStream α := fun s =>
  .error ⟨cause, s.place⟩

/-- Refuses the bytes of the stream `count` bytes before the place where it stands, in the same line. -/
def refuseBack {α : Type} (cause : Cause) (count : Nat) : FromStream α := fun s =>
  .error ⟨cause, ⟨s.place.line, s.place.column - count⟩⟩

/-! ## White space, words and colons -/

/-- Takes bytes as long as they pass a test, and adds their number to `count`. -/
def takeWhileFrom (p : UInt8 → Bool) : Nat → Nat → FromStream Nat
  | 0, count => return count
  | fuel + 1, count => do
    if (← peek).any p then
      discard
      takeWhileFrom p fuel (count + 1)
    else return count

/-- Takes bytes as long as they pass a test, and gives their number; the byte that ends them is held. -/
def takeWhile (p : UInt8 → Bool) : FromStream Nat := do
  takeWhileFrom p ((← get).left + 1) 0

/-- Takes white space and looks at the byte behind it. -/
def skipBlanks : FromStream (Option UInt8) := do
  let _ ← takeWhile isBlank
  peek

/-- Takes white space and looks at the byte behind it; there has to be one before what is being read can end. -/
def skipToByte (inside : Unfinished) : FromStream UInt8 := do
  match ← skipBlanks with
  | none => refuse (.endOfInput inside)
  | some b => return b

def readWord : List UInt8 → FromStream Unit
  | [] => return ()
  | b :: bs => do
    match ← take with
    | none => refuse (.endOfInput .value)
    | some d => if d == b then readWord bs else refuse .identExpected

def readColon : FromStream Unit := do
  if (← skipToByte .object) == 0x3A then discard else refuse .colonExpected

end FromStream

end PatternGrammar.Config
