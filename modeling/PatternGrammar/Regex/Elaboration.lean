import PatternGrammar.CharSet.Property
import PatternGrammar.Regex.Choice
import PatternGrammar.Regex.Tree.GroupHead

/-!
# From pattern trees to expressions

A tree is given its meaning from left to right under flags that the pattern itself may switch. Letter case is settled
here: under flag `i` a literal, range or named set becomes the set of all characters with the same folds, before any
negation. Without flag `u` sets are those of ASCII, and whatever would need a character outside it is refused.
-/

namespace PatternGrammar.Regex

/-! ## Flags -/

/-- The flags that bear on the meaning of a pattern. -/
structure Flags where
  caseInsensitive : Bool
  multiLine : Bool
  dotMatchesNewLine : Bool
  swapGreed : Bool
  unicode : Bool
  crlf : Bool
  deriving DecidableEq, Repr

namespace Flags

def set (flags : Flags) (setting : FlagSetting) : Flags :=
  match setting.1 with
  | .caseInsensitive => { flags with caseInsensitive := setting.2 }
  | .multiLine => { flags with multiLine := setting.2 }
  | .dotMatchesNewLine => { flags with dotMatchesNewLine := setting.2 }
  | .swapGreed => { flags with swapGreed := setting.2 }
  | .unicode => { flags with unicode := setting.2 }
  | .crlf => { flags with crlf := setting.2 }
  | .ignoreWhitespace => flags

def setAll (flags : Flags) (settings : List FlagSetting) : Flags :=
  settings.foldl set flags

def folding (flags : Flags) : Unicode.Folding :=
  if !flags.caseInsensitive then .exact
  else if flags.unicode then .simple
  else .ascii

def assertion (flags : Flags) : AssertionKind → Assertion
  | .lineStart =>
      if !flags.multiLine then .textStart else if flags.crlf then .crlfLineStart else .lineStart
  | .lineEnd =>
      if !flags.multiLine then .textEnd else if flags.crlf then .crlfLineEnd else .lineEnd
  | .textStart => .textStart
  | .textEnd => .textEnd
  | .wordBoundary => .wordBoundary flags.unicode
  | .notWordBoundary => .notWordBoundary flags.unicode
  | .wordStart => .wordStart flags.unicode
  | .wordEnd => .wordEnd flags.unicode
  | .wordStartHalf => .wordStartHalf flags.unicode
  | .wordEndHalf => .wordEndHalf flags.unicode

end Flags

/-! ## Sets -/

/-- The characters with the same fold as a member of the set. -/
def close (f : Unicode.Folding) (s : CharSet) : CharSet :=
  if f = .exact then s else .closure f s

def NamedClass.members : NamedClass → CharSet
  | alnum => .bands [⟨0x30, 0x39, 1⟩, ⟨0x41, 0x5A, 1⟩, ⟨0x61, 0x7A, 1⟩]
  | alpha => .bands [⟨0x41, 0x5A, 1⟩, ⟨0x61, 0x7A, 1⟩]
  | ascii => .ascii
  | blank => .bands [⟨0x09, 0x09, 1⟩, ⟨0x20, 0x20, 1⟩]
  | cntrl => .bands [⟨0x00, 0x1F, 1⟩, ⟨0x7F, 0x7F, 1⟩]
  | digit => .asciiDigits
  | graph => .range 0x21 0x7E
  | lower => .range 0x61 0x7A
  | print => .range 0x20 0x7E
  | punct => .bands [⟨0x21, 0x2F, 1⟩, ⟨0x3A, 0x40, 1⟩, ⟨0x5B, 0x60, 1⟩, ⟨0x7B, 0x7E, 1⟩]
  | space => .asciiSpaces
  | upper => .range 0x41 0x5A
  | word => .asciiWords
  | xdigit => .bands [⟨0x30, 0x39, 1⟩, ⟨0x41, 0x46, 1⟩, ⟨0x61, 0x66, 1⟩]

def ShortClass.members (unicode : Bool) : ShortClass → CharSet
  | digit => if unicode then .digits else .asciiDigits
  | space => if unicode then .spaces else .asciiSpaces
  | word => if unicode then .words else .asciiWords

/-- The set, or its complement, which without Unicode would hold bytes that are no characters. -/
def negated (flags : Flags) (span : Span) (negate : Bool) (s : CharSet) : Except SyntaxError CharSet :=
  if negate && !flags.unicode then refuseAt .invalidUtf8 span else .ok (.negateIf negate s)

/-- The set of a short class. Folding would add nothing to it. -/
def shortSet (flags : Flags) (span : Span) (kind : ShortClass) (negate : Bool) : Except SyntaxError CharSet :=
  negated flags span negate (kind.members flags.unicode)

def propertySet (flags : Flags) (span : Span) (query : PropertyQuery) (negate : Bool) :
    Except SyntaxError CharSet :=
  if !flags.unicode then refuseAt .unicodeNotAllowed span
  else
    let found :=
      match query with
      | .name name => CharSet.ofName name
      | .value name value => CharSet.ofValue name value
    match found with
    | .error .unknownProperty => refuseAt .propertyUnknown span
    | .error .unknownValue => refuseAt .propertyValueUnknown span
    | .ok s => .ok (.negateIf negate (close flags.folding s))

/-- The code point of a literal. Without Unicode a two-digit number above ASCII is a byte, which is no character. -/
def literalPoint (flags : Flags) (l : Literal) : Except SyntaxError Nat :=
  if l.byteForm && !flags.unicode && decide (l.char.toNat > 0x7F) then refuseAt .invalidUtf8 l.span
  else .ok l.char.toNat

/-- The code point of a literal in a class, which without Unicode has to be one of ASCII. -/
def classPoint (flags : Flags) (l : Literal) : Except SyntaxError Nat :=
  match literalPoint flags l with
  | .error e => .error e
  | .ok n => if !flags.unicode && decide (n > 0x7F) then refuseAt .unicodeNotAllowed l.span else .ok n

def SetOperator.apply : SetOperator → CharSet → CharSet → CharSet
  | intersection => .inter
  | difference => .diff
  | symmetricDifference => .symmDiff

mutual

def ClassTree.toSet (flags : Flags) : ClassTree → Except SyntaxError CharSet
  | .empty _ => .ok .empty
  | .literal l =>
      match classPoint flags l with
      | .error e => .error e
      | .ok n => .ok (.letter flags.folding n)
  | .range _ lo hi =>
      match classPoint flags lo with
      | .error e => .error e
      | .ok first =>
        match classPoint flags hi with
        | .error e => .error e
        | .ok last => .ok (close flags.folding (.range first last))
  -- folded before it is negated, so under flag `i` there is no letter of ASCII in `[:^lower:]`
  | .named span kind negate => negated flags span negate (close flags.folding kind.members)
  | .short span kind negate => shortSet flags span kind negate
  | .property span query negate => propertySet flags span query negate
  | .bracket span negate body =>
      match body.toSet flags with
      | .error e => .error e
      -- what stands inside is folded already
      | .ok s => negated flags span negate s
  | .union _ items =>
      match ClassTree.toSets flags items with
      | .error e => .error e
      | .ok sets => .ok (.unions sets)
  | .operation _ operator left right =>
      match left.toSet flags with
      | .error e => .error e
      | .ok s =>
        match right.toSet flags with
        | .error e => .error e
        | .ok t => .ok (operator.apply s t)

def ClassTree.toSets (flags : Flags) : List ClassTree → Except SyntaxError (List CharSet)
  | [] => .ok []
  | t :: ts =>
      match t.toSet flags with
      | .error e => .error e
      | .ok s =>
        match ClassTree.toSets flags ts with
        | .error e => .error e
        | .ok ss => .ok (s :: ss)

end

/-! ## Expressions -/

def dotSet (flags : Flags) : CharSet :=
  if flags.dotMatchesNewLine then .all
  else if flags.crlf then .compl (.bands [⟨0x0A, 0x0A, 1⟩, ⟨0x0D, 0x0D, 1⟩])
  else .compl (.single 0x0A)

/-- What is known while a tree is read from left to right: the flags, and the number of the next capture group. -/
structure Scope where
  flags : Flags
  nextGroup : Nat
  deriving DecidableEq, Repr

/-- An expression for a set, which without Unicode is marked as one of ASCII. -/
def Flags.chars (flags : Flags) (s : CharSet) : Expr :=
  .chars (if flags.unicode then s else .asciiOnly s)

def charsOf (scope : Scope) (set : Except SyntaxError CharSet) : Except SyntaxError (Expr × Scope) :=
  match set with
  | .error e => .error e
  | .ok s => .ok (scope.flags.chars s, scope)

def literalChars (flags : Flags) (n : Nat) : Expr :=
  if n ≤ 0x7F then flags.chars (.letter flags.folding n) else .chars (.letter flags.folding n)

mutual

/-- The expression that a tree means, and what is known after it. -/
def Tree.elaborate (scope : Scope) : Tree → Except SyntaxError (Expr × Scope)
  | .empty _ => .ok (.empty, scope)
  | .flags _ settings => .ok (.empty, { scope with flags := scope.flags.setAll settings })
  | .literal l =>
      match literalPoint scope.flags l with
      | .error e => .error e
      | .ok n => .ok (literalChars scope.flags n, scope)
  | .dot span =>
      -- without Unicode a dot would match bytes that are no characters
      if scope.flags.unicode then .ok (.chars (dotSet scope.flags), scope) else refuseAt .invalidUtf8 span
  | .assertion _ kind => .ok (.assertion (scope.flags.assertion kind), scope)
  | .short span kind negate => charsOf scope (shortSet scope.flags span kind negate)
  | .property span query negate => charsOf scope (propertySet scope.flags span query negate)
  | .bracket span negate body =>
      match body.toSet scope.flags with
      | .error e => .error e
      | .ok s => charsOf scope (negated scope.flags span negate s)
  | .repetition _ min max greedy body =>
      match body.elaborate scope with
      | .error e => .error e
      -- flag `U` exchanges greedy and lazy
      | .ok (e, scope) => .ok (.repeated min max (greedy != scope.flags.swapGreed) e, scope)
  | .group _ .capture body =>
      match body.elaborate { scope with nextGroup := scope.nextGroup + 1 } with
      | .error e => .error e
      -- groups inside are counted on, flags set inside end here
      | .ok (e, after) => .ok (.group scope.nextGroup e, { after with flags := scope.flags })
  | .group _ (.flagged settings) body =>
      match body.elaborate { scope with flags := scope.flags.setAll settings } with
      | .error e => .error e
      | .ok (e, after) => .ok (e, { after with flags := scope.flags })
  | .alternation _ branches =>
      match Tree.elaborateAll scope branches with
      | .error e => .error e
      | .ok (es, scope) => .ok (.choice es, scope)
  | .concat _ items =>
      match Tree.elaborateAll scope items with
      | .error e => .error e
      | .ok (es, scope) => .ok (.sequence es, scope)

def Tree.elaborateAll (scope : Scope) : List Tree → Except SyntaxError (List Expr × Scope)
  | [] => .ok ([], scope)
  | t :: ts =>
      match t.elaborate scope with
      | .error e => .error e
      | .ok (e, scope) =>
        match Tree.elaborateAll scope ts with
        | .error e => .error e
        | .ok (es, scope) => .ok (e :: es, scope)

end

end PatternGrammar.Regex
