import PatternGrammar.Config.ByteStream.Skipping
import PatternGrammar.Config.Reader

/-!
# Reading options from streams

The options of a file are an object or array, as those of a text are, but are read while the bytes come.
-/

namespace PatternGrammar.Config

namespace FromStream

/-! ## Values -/

/-- Refuses a value of the wrong kind, of which the first byte `b` is held, after reading it unless it is a list or an
object. -/
def refuseValue {α : Type} (expected : Expected) (b : UInt8) : FromStream α := do
  -- what is wrong inside the value is reported before its kind
  if b == 0x6E then
    discard
    readWord nullRest
    refuse (.wrongType .null expected)
  else if b == 0x74 then
    discard
    readWord trueRest
    refuse (.wrongType (.boolean true) expected)
  else if b == 0x66 then
    discard
    readWord falseRest
    refuse (.wrongType (.boolean false) expected)
  else if b == 0x2D then
    discard
    let n ← readNumber true
    refuse (.wrongType n.found expected)
  else if isDigit b then
    let n ← readNumber false
    refuse (.wrongType n.found expected)
  else if b == 0x22 then
    discard
    let s ← readString
    refuse (.wrongType (.string s) expected)
  else if b == 0x5B then refuse (.wrongType .sequence expected)
  else if b == 0x7B then refuse (.wrongType .map expected)
  else refuse .valueExpected

def readBool : FromStream Bool := do
  let b ← skipToByte .value
  if b == 0x74 then
    discard
    readWord trueRest
    return true
  else if b == 0x66 then
    discard
    readWord falseRest
    return false
  else refuseValue .boolean b

def readInteger (expected : Expected) (most : Nat) : FromStream Nat := do
  let b ← skipToByte .value
  if b == 0x2D || isDigit b then
    if b == 0x2D then discard
    let n ← readNumber (b == 0x2D)
    match n with
    | .unsigned m => if m ≤ most then return m else refuse (.wrongValue n.found expected)
    | .negative _ => refuse (.wrongValue n.found expected)
    | .floating _ => refuse (.wrongType n.found expected)
  else refuseValue expected b

def readField (d : Draft) : Field → FromStream Draft
  | .caseInsensitive => return { d with caseInsensitive := some (← readBool) }
  | .multiLine => return { d with multiLine := some (← readBool) }
  | .dotMatchesNewLine => return { d with dotMatchesNewLine := some (← readBool) }
  | .sizeLimit => return { d with sizeLimit := some (← readInteger .size maxInteger).toUInt64 }
  | .nestLimit => return { d with nestLimit := some (← readInteger .depth maxDepth).toUInt32 }

/-! ## Arrays -/

def readArrayEnd : FromStream Unit := do
  let b ← skipToByte .list
  if b == 0x5D then discard
  else if b == 0x2C then
    discard
    -- one comma too many, or one value
    if (← skipBlanks) = some 0x5D then refuse .trailingComma else refuse .trailingCharacters
  else refuse .trailingCharacters

def readElements (first : Bool) (d : Draft) : List Field → FromStream Draft
  | [] => return d
  | f :: fs => do
    let b ← skipToByte .list
    if b == 0x5D then return d
    else if first then readElements false (← readField d f) fs
    else if b == 0x2C then
      discard
      if (← skipToByte .value) == 0x5D then refuse .trailingComma
      else readElements false (← readField d f) fs
    else refuse .listCommaExpected

/-! ## Objects -/

def refuseDuplicate {α : Type} (name : List Char) : FromStream α := do
  if (← skipBlanks) = some 0x7D then discard
  refuse (.duplicateField name)

def readMember (d : Draft) : FromStream Draft := do
  let key ← readString
  match Field.ofName? key with
  | some f =>
    if d.has f then refuseDuplicate key
    else
      readColon
      readField d f
  | none =>
    -- a name that is not known may come twice
    readColon
    skipValue
    return d

/-- Reads the members of an object up to its end; the `first` one has no comma before it. Each member takes at least one
byte, so the fuel is the number of bytes. -/
def readMembers : Nat → Bool → Draft → FromStream Draft
  | 0, _, _ => do
    let _ ← peek
    refuse (.endOfInput .object)
  | fuel + 1, first, d => do
    let b ← skipToByte .object
    if b == 0x7D then
      discard
      return d
    else if first then
      if b == 0x22 then
        discard
        readMembers fuel false (← readMember d)
      else refuse .keyNotString
    else if b == 0x2C then
      discard
      let b ← skipToByte .value
      if b == 0x22 then
        discard
        readMembers fuel false (← readMember d)
      else if b == 0x7D then refuse .trailingComma
      else refuse .keyNotString
    else refuse .objectCommaExpected

/-! ## Options -/

def readOptions : FromStream Draft := do
  let b ← skipToByte .value
  if b == 0x5B then
    discard
    let d ← readElements true {} Field.all
    readArrayEnd
    return d
  else if b == 0x7B then
    let fuel := (← get).left + 1
    discard
    readMembers fuel true {}
  else refuseValue .options b

/-- Reads options up to the end of the stream, where nothing else may come. -/
def readAll : FromStream Config := do
  let d ← readOptions
  if (← skipBlanks).isNone then return d.toConfig else refuse .trailingCharacters

end FromStream

/-- Reads options from a stream that holds nothing else. -/
def readStream (s : ByteStream) : Except Refusal Config :=
  (FromStream.readAll s).map (·.1)

end PatternGrammar.Config
