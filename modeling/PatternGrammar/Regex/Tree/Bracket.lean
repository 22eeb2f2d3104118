import PatternGrammar.Regex.Tree.Escape

/-!
# Bracketed classes

A class is read with one frame for each bracket that is open. A frame holds the left operand of the operator that waits
for its right one, and the items of the operand under way, backwards.
-/

namespace PatternGrammar.Regex

/-! ## Sets by name -/

def NamedClass.ofName? : String → Option NamedClass
  | "alnum" => some .alnum
  | "alpha" => some .alpha
  | "ascii" => some .ascii
  | "blank" => some .blank
  | "cntrl" => some .cntrl
  | "digit" => some .digit
  | "graph" => some .graph
  | "lower" => some .lower
  | "print" => some .print
  | "punct" => some .punct
  | "space" => some .space
  | "upper" => some .upper
  | "word" => some .word
  | "xdigit" => some .xdigit
  | _ => none

/-- Reads `[:name:]` or `[:^name:]`. Where it does not stand in full there is none, and the bracket opens a class. -/
def readNamedClass? (text : List Char) : Option (ClassTree × List Char) :=
  match text with
  | '[' :: ':' :: rest =>
    let (negated, rest) :=
      match rest with
      | '^' :: rest => (true, rest)
      | _ => (false, rest)
    match rest.span (· != ':') with
    | (name, ':' :: ']' :: after) =>
      (NamedClass.ofName? (String.ofList name)).map fun kind => (.named (.between text after) kind negated, after)
    | _ => none
  | _ => none

/-! ## Items -/

/-- An atom as an item of a class; assertions are none. -/
def Atom.toClassItem : Atom → Except SyntaxError ClassTree
  | literal l => .ok (.literal l)
  | short s k n => .ok (.short s k n)
  | property s q n => .ok (.property s q n)
  | dot s | assertion s _ => refuseAt .classEscape s

def Atom.toRangeEnd : Atom → Except SyntaxError Literal
  | literal l => .ok l
  | a => refuseAt .classRangeBoundary a.span

/-- Reads an item that is no bracket: an atom or a range. The innermost open class starts with `opening`. -/
def readClassItem (ignoring : Bool) (opening : Span) (text : List Char) : Reading ClassTree :=
  match readLiteralOrEscape ignoring text with
  | .error e => .error e
  | .ok (lo, rest) =>
    match skipIgnored ignoring rest with
    | [] => refuseAt .classUnclosed opening
    | c :: cs =>
      let next := peekVisible? ignoring cs
      -- a dash that ends the class, or begins the operator `--`, makes no range
      if c != '-' || next = some ']' || next = some '-' then
        match lo.toClassItem with
        | .error e => .error e
        | .ok item => .ok (item, c :: cs)
      else
        match skipIgnored ignoring cs with
        | [] => refuseAt .classUnclosed opening
        | d :: ds =>
          match readLiteralOrEscape ignoring (d :: ds) with
          | .error e => .error e
          | .ok (hi, rest) =>
            -- both ends are read before either is refused
            match lo.toRangeEnd with
            | .error e => .error e
            | .ok first =>
              match hi.toRangeEnd with
              | .error e => .error e
              | .ok last =>
                let span := lo.span.through hi.span
                if first.char > last.char then refuseAt .classRangeReversed span
                else .ok (.range span first last, rest)

/-! ## Brackets -/

structure ClassFrame where
  /-- The text from the bracket on. -/
  text : List Char
  /-- The bracket with the `^` and the leading literals that belong to it. -/
  opening : Span
  negated : Bool
  /-- The left operand and the operator that wait for a right operand. -/
  pending : Option (ClassTree × SetOperator)
  /-- The items of the operand under way, backwards. -/
  items : List ClassTree
  /-- The place where the operand under way starts. -/
  operandAt : Span

namespace ClassFrame

/-- The operand under way as one tree. -/
def operand (f : ClassFrame) : ClassTree :=
  match f.items with
  | [] => .empty f.operandAt
  | [item] => item
  | last :: before =>
    let first := before.getLastD last
    .union (first.span.through last.span) (last :: before).reverse

/-- The operand under way joined with the operand that waits for it. -/
def body (f : ClassFrame) : ClassTree :=
  match f.pending with
  | none => f.operand
  | some (left, operator) => .operation (left.span.through f.operand.span) operator left f.operand

def push (f : ClassFrame) (item : ClassTree) : ClassFrame :=
  { f with items := item :: f.items }

/-- The frame after an operator, with `rest` left. -/
def apply (f : ClassFrame) (operator : SetOperator) (rest : List Char) : ClassFrame :=
  { f with pending := some (f.body, operator), items := [], operandAt := .here rest }

end ClassFrame

/-- The literals `-` at the start of a class, backwards on top of `items`, and what is left; without characters after
them there is nothing. -/
def leadingDashes (ignoring : Bool) : Nat → List ClassTree → List Char → List ClassTree × List Char
  | fuel + 1, items, '-' :: rest =>
    leadingDashes ignoring fuel (.literal ⟨.between ('-' :: rest) rest, '-', false⟩ :: items)
      (skipIgnored ignoring rest)
  | _, items, text => (items, text)

/-- Opens a bracket: reads the `^` and the literals that may only stand at the start. -/
def openClass (ignoring : Bool) (text : List Char) : Reading ClassFrame :=
  match skipIgnored ignoring (text.drop 1) with
  | [] => refuse .classUnclosed text []
  | c :: cs =>
    let negated := c == '^'
    match if negated then skipIgnored ignoring cs else c :: cs with
    | [] => refuse .classUnclosed text []
    | d :: ds =>
      let (items, rest) := leadingDashes ignoring (ds.length + 1) [] (d :: ds)
      let frame (items : List ClassTree) (rest : List Char) : ClassFrame :=
        ⟨text, .between text rest, negated, none, items, .here (d :: ds)⟩
      match rest with
      | [] => refuseAt .classUnclosed (.here text)
      | e :: es =>
        -- a bracket that comes first cannot close the class
        if items.isEmpty && e == ']' then
          match skipIgnored ignoring es with
          | [] => refuse .classUnclosed text []
          | f :: fs => .ok (frame [.literal ⟨.between (e :: es) es, ']', false⟩] (f :: fs), f :: fs)
        else .ok (frame items rest, rest)

/-- The operator at the start of a text, and what follows it. -/
def setOperator? : List Char → Option (SetOperator × List Char)
  | '&' :: '&' :: rest => some (.intersection, rest)
  | '-' :: '-' :: rest => some (.difference, rest)
  | '~' :: '~' :: rest => some (.symmetricDifference, rest)
  | _ => none

/-- Reads on inside the innermost open bracket `frame`, itself inside the brackets `outer`. Each step reads at least one
character, so the fuel is the length of the text. -/
def readClassBody (ignoring : Bool) : Nat → ClassFrame → List ClassFrame → List Char → Reading Tree
  | 0, frame, _, _ => refuseAt .classUnclosed frame.opening
  | fuel + 1, frame, outer, text =>
    match skipIgnored ignoring text with
    | [] => refuseAt .classUnclosed frame.opening
    | c :: rest =>
      if c == '[' then
        match readNamedClass? (c :: rest) with
        | some (item, after) => readClassBody ignoring fuel (frame.push item) outer after
        | none =>
          -- a name that is not known makes no fault: its bracket opens a class
          match openClass ignoring (c :: rest) with
          | .error e => .error e
          | .ok (inner, after) => readClassBody ignoring fuel inner (frame :: outer) after
      else if c == ']' then
        let span := Span.between frame.text rest
        match outer with
        | [] => .ok (.bracket span frame.negated frame.body, rest)
        | f :: fs => readClassBody ignoring fuel (f.push (.bracket span frame.negated frame.body)) fs rest
      else
        match setOperator? (c :: rest) with
        | some (operator, after) => readClassBody ignoring fuel (frame.apply operator after) outer after
        | none =>
          match readClassItem ignoring frame.opening (c :: rest) with
          | .error e => .error e
          | .ok (item, after) => readClassBody ignoring fuel (frame.push item) outer after

def readClass (ignoring : Bool) (text : List Char) : Reading Tree :=
  match openClass ignoring text with
  | .error e => .error e
  | .ok (frame, rest) => readClassBody ignoring rest.length frame [] rest

end PatternGrammar.Regex
