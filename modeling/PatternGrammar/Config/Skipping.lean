import PatternGrammar.Config.Number
import PatternGrammar.Config.Quotation

/-!
# Skipped values

The value of an unknown member is read only to find its end. The brackets that are open are kept in a list, so values
may be nested to any depth.
-/

namespace PatternGrammar.Config

def isBlank (b : UInt8) : Bool :=
  b == 0x20 || b == 0x0A || b == 0x09 || b == 0x0D

/-- The cursor after white space, where the next byte has been looked at. -/
def skipBlanks (c : Cursor) : Cursor :=
  (c.eatMany (c.rest.takeWhile isBlank).length).look

/-- Reads the letters of a word after its first one. -/
def readWord : List UInt8 → Cursor → Except Failure Cursor
  | [], c => .ok c
  | b :: bs, c =>
    match c.head? with
    | none => refuse (.endOfInput .value) c
    | some d => if d == b then readWord bs c.eat else refuse .identExpected c.eat

def nullRest : List UInt8 := [0x75, 0x6C, 0x6C]

def trueRest : List UInt8 := [0x72, 0x75, 0x65]

def falseRest : List UInt8 := [0x61, 0x6C, 0x73, 0x65]

inductive Bracket where
  | list
  | object
  deriving DecidableEq, Repr

namespace Bracket

def inside : Bracket → Unfinished
  | list => .list
  | object => .object

def commaCause : Bracket → Cause
  | list => .listCommaExpected
  | object => .objectCommaExpected

def closing : Bracket → UInt8
  | list => 0x5D
  | object => 0x7D

end Bracket

def readColon (c : Cursor) : Except Failure Cursor :=
  let c := skipBlanks c
  match c.head? with
  | none => refuseNext (.endOfInput .object) c
  | some b => if b == 0x3A then .ok c.eat else refuseNext .colonExpected c

def skipKey (c : Cursor) : Except Failure Cursor :=
  let c := skipBlanks c
  match c.head? with
  | none => refuseNext (.endOfInput .object) c
  | some b =>
    if b == 0x22 then
      match skipString c.eat with
      | .error e => .error e
      | .ok c => readColon c
    else refuseNext .keyNotString c

/-- Skips what stands before the next value inside a bracket: in an object a key. -/
def skipToValue (bracket : Bracket) (c : Cursor) : Except Failure Cursor :=
  match bracket with
  | .list => .ok c
  | .object => skipKey c

/-- Skips a value that is neither list nor object and starts with byte `b`. -/
def skipScalar (b : UInt8) (c : Cursor) : Except Failure Cursor :=
  if b == 0x6E then readWord nullRest c.eat
  else if b == 0x74 then readWord trueRest c.eat
  else if b == 0x66 then readWord falseRest c.eat
  else if b == 0x2D then skipNumber c.eat
  else if isDigit b then skipNumber c
  else if b == 0x22 then skipString c.eat
  else refuseNext .valueExpected c

def opening? (b : UInt8) : Option Bracket :=
  if b == 0x5B then some .list else if b == 0x7B then some .object else none

/-- Skips on inside open brackets, the innermost in front: a value that has to come next or, if `done`, what follows a
value. Each step but the last takes at least one byte, so the fuel is one more than the number of bytes. -/
def skipFrom : Nat → Bool → List Bracket → Cursor → Except Failure Cursor
  | 0, _, _, c => refuseNext (.endOfInput .value) c
  | fuel + 1, false, outer, c =>
    let c := skipBlanks c
    match c.head? with
    | none => refuseNext (.endOfInput .value) c
    | some b =>
      match opening? b with
      | none =>
        match skipScalar b c with
        | .error e => .error e
        | .ok c => skipFrom fuel true outer c
      | some bracket =>
        let c := skipBlanks c.eat
        match c.head? with
        | none => refuseNext (.endOfInput bracket.inside) c
        | some b =>
          -- an empty list or object is a value that is done
          if b == bracket.closing then skipFrom fuel true outer c.eat
          else
            match skipToValue bracket c with
            | .error e => .error e
            | .ok c => skipFrom fuel false (bracket :: outer) c
  | _ + 1, true, [], c => .ok c
  | fuel + 1, true, bracket :: outer, c =>
    let c := skipBlanks c
    match c.head? with
    | none => refuseNext (.endOfInput bracket.inside) c
    | some b =>
      if b == bracket.closing then skipFrom fuel true outer c.eat
      -- behind a comma a value has to come, and a bracket that closes is none
      else if b == 0x2C then
        match skipToValue bracket c.eat with
        | .error e => .error e
        | .ok c => skipFrom fuel false (bracket :: outer) c
      else refuseNext bracket.commaCause c

def skipValue (c : Cursor) : Except Failure Cursor :=
  skipFrom (c.rest.length + 1) false [] c

end PatternGrammar.Config
