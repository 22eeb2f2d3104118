import PatternGrammar.Config
import PatternGrammar.Config.Skipping

/-!
# Reading options

Options are an object with some of the options as members, in any order and each at most once, or an array with the
values of the first few options in order. What is missing has its standard value. Members with other names are skipped.
-/

namespace PatternGrammar.Config

/-- The options read so far. -/
structure Draft where
  caseInsensitive : Option Bool := none
  multiLine : Option Bool := none
  dotMatchesNewLine : Option Bool := none
  sizeLimit : Option UInt64 := none
  nestLimit : Option UInt32 := none
  deriving DecidableEq, Repr

namespace Draft

def has (d : Draft) : Field → Bool
  | .caseInsensitive => d.caseInsensitive.isSome
  | .multiLine => d.multiLine.isSome
  | .dotMatchesNewLine => d.dotMatchesNewLine.isSome
  | .sizeLimit => d.sizeLimit.isSome
  | .nestLimit => d.nestLimit.isSome

/-- The options, with standard values for those not read. -/
def toConfig (d : Draft) : Config :=
  ⟨d.caseInsensitive.getD standard.caseInsensitive, d.multiLine.getD standard.multiLine,
    d.dotMatchesNewLine.getD standard.dotMatchesNewLine, d.sizeLimit.getD standard.sizeLimit,
    d.nestLimit.getD standard.nestLimit⟩

end Draft

/-! ## Values -/

/-- Refuses a value of the wrong kind, after reading it unless it is a list or an object. -/
def refuseValue {α : Type} (expected : Expected) (b : UInt8) (c : Cursor) : Except Failure α := do
  -- what is wrong inside the value is reported before its kind
  if b == 0x6E then
    let c ← readWord nullRest c.eat
    refuse (.wrongType .null expected) c
  else if b == 0x74 then
    let c ← readWord trueRest c.eat
    refuse (.wrongType (.boolean true) expected) c
  else if b == 0x66 then
    let c ← readWord falseRest c.eat
    refuse (.wrongType (.boolean false) expected) c
  else if b == 0x2D then
    let (n, c) ← readNumber true c.eat
    refuse (.wrongType n.found expected) c
  else if isDigit b then
    let (n, c) ← readNumber false c
    refuse (.wrongType n.found expected) c
  else if b == 0x22 then
    let (s, c) ← readString c.eat
    refuse (.wrongType (.string s) expected) c
  else if b == 0x5B then refuse (.wrongType .sequence expected) c.look
  else if b == 0x7B then refuse (.wrongType .map expected) c.look
  else refuseNext .valueExpected c

def readBool (c : Cursor) : Except Failure (Bool × Cursor) := do
  let c := skipBlanks c
  match c.head? with
  | none => refuseNext (.endOfInput .value) c
  | some b =>
    if b == 0x74 then
      let c ← readWord trueRest c.eat
      return (true, c)
    else if b == 0x66 then
      let c ← readWord falseRest c.eat
      return (false, c)
    else refuseValue .boolean b c

/-- Reads an integer from 0 to `most`. -/
def readInteger (expected : Expected) (most : Nat) (c : Cursor) : Except Failure (Nat × Cursor) := do
  let c := skipBlanks c
  match c.head? with
  | none => refuseNext (.endOfInput .value) c
  | some b =>
    if b == 0x2D || isDigit b then
      let (n, c) ← readNumber (b == 0x2D) (if b == 0x2D then c.eat else c)
      match n with
      | .unsigned m =>
        if m ≤ most then return (m, c) else refuse (.wrongValue n.found expected) c
      | .negative _ => refuse (.wrongValue n.found expected) c
      | .floating _ => refuse (.wrongType n.found expected) c
    else refuseValue expected b c

def maxDepth : Nat :=
  4294967295

def readField (d : Draft) (c : Cursor) : Field → Except Failure (Draft × Cursor)
  | .caseInsensitive => do
    let (b, c) ← readBool c
    return ({ d with caseInsensitive := some b }, c)
  | .multiLine => do
    let (b, c) ← readBool c
    return ({ d with multiLine := some b }, c)
  | .dotMatchesNewLine => do
    let (b, c) ← readBool c
    return ({ d with dotMatchesNewLine := some b }, c)
  | .sizeLimit => do
    let (n, c) ← readInteger .size maxInteger c
    return ({ d with sizeLimit := some n.toUInt64 }, c)
  | .nestLimit => do
    let (n, c) ← readInteger .depth maxDepth c
    return ({ d with nestLimit := some n.toUInt32 }, c)

/-! ## Arrays -/

/-- Reads the end of an array, of which all values are read. -/
def readArrayEnd (c : Cursor) : Except Failure Cursor :=
  let c := skipBlanks c
  match c.head? with
  | none => refuseNext (.endOfInput .list) c
  | some b =>
    if b == 0x5D then .ok c.eat
    else if b == 0x2C then
      -- one comma too many, or one value
      let c := skipBlanks c.eat
      if c.head? = some 0x5D then refuseNext .trailingComma c else refuseNext .trailingCharacters c
    else refuseNext .trailingCharacters c

/-- Reads the values of some options; the `first` one has no comma before it. -/
def readElements (first : Bool) (d : Draft) (c : Cursor) : List Field → Except Failure (Draft × Cursor)
  | [] => .ok (d, c)
  | f :: fs => do
    let c := skipBlanks c
    match c.head? with
    | none => refuseNext (.endOfInput .list) c
    | some b =>
      if b == 0x5D then return (d, c)
      else if first then
        let (d, c) ← readField d c f
        readElements false d c fs
      else if b == 0x2C then
        let c := skipBlanks c.eat
        match c.head? with
        | none => refuseNext (.endOfInput .value) c
        | some b =>
          if b == 0x5D then refuseNext .trailingComma c
          else
            let (d, c) ← readField d c f
            readElements false d c fs
      else refuseNext .listCommaExpected c

/-! ## Objects -/

/-- Refuses an option that has been read before. The place is looked for after the key, past the end of the object if
that comes next. -/
def refuseDuplicate {α : Type} (name : List Char) (c : Cursor) : Except Failure α :=
  let c := skipBlanks c
  refuse (.duplicateField name) (if c.head? = some 0x7D then c.eat else c)

/-- Reads a member after the opening quote of its key. -/
def readMember (d : Draft) (c : Cursor) : Except Failure (Draft × Cursor) := do
  let (key, c) ← readString c
  match Field.ofName? key with
  | some f =>
    if d.has f then refuseDuplicate key c
    else
      let c ← readColon c
      readField d c f
  | none => do
    -- a name that is not known may come twice
    let c ← readColon c
    let c ← skipValue c
    return (d, c)

/-- Reads the members of an object up to its end; the `first` one has no comma before it. Each member takes at least one
byte, so the fuel is the number of bytes. -/
def readMembers : Nat → Bool → Draft → Cursor → Except Failure (Draft × Cursor)
  | 0, _, _, c => refuseNext (.endOfInput .object) c
  | fuel + 1, first, d, c => do
    let c := skipBlanks c
    match c.head? with
    | none => refuseNext (.endOfInput .object) c
    | some b =>
      if b == 0x7D then return (d, c.eat)
      else if first then
        if b == 0x22 then
          let (d, c) ← readMember d c.eat
          readMembers fuel false d c
        else refuseNext .keyNotString c
      else if b == 0x2C then
        let c := skipBlanks c.eat
        match c.head? with
        | none => refuseNext (.endOfInput .value) c
        | some b =>
          if b == 0x22 then
            let (d, c) ← readMember d c.eat
            readMembers fuel false d c
          else if b == 0x7D then refuseNext .trailingComma c
          else refuseNext .keyNotString c
      else refuseNext .objectCommaExpected c

/-! ## Options -/

def readOptions (c : Cursor) : Except Failure (Draft × Cursor) := do
  let c := skipBlanks c
  match c.head? with
  | none => refuseNext (.endOfInput .value) c
  | some b =>
    if b == 0x5B then
      let (d, c) ← readElements true {} c.eat Field.all
      let c ← readArrayEnd c
      return (d, c)
    else if b == 0x7B then readMembers (c.rest.length + 1) true {} c.eat
    else refuseValue .options b c

/-- Reads options from bytes that hold nothing else. -/
def read (bytes : List UInt8) : Except Failure Config := do
  let (d, c) ← readOptions (.ofBytes bytes)
  let c := skipBlanks c
  if c.rest.isEmpty then return d.toConfig else refuseNext .trailingCharacters c

end PatternGrammar.Config
