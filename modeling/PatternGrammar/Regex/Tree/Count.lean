import PatternGrammar.Regex.Tree.Escape

/-!
# Counted repetitions

The counts in braces after an expression: `{n}`, `{n,}` or `{n,m}`, with white space allowed around the numbers.
-/

namespace PatternGrammar.Regex

/-- How often an expression is repeated, and whether as often as possible. -/
structure Count where
  min : Nat
  max : Option Nat
  greedy : Bool
  deriving DecidableEq, Repr

def decimalNumber (digits : List Char) : Nat :=
  digits.foldl (fun n d => n * 10 + (d.toNat - '0'.toNat)) 0

def maxCount : Nat :=
  4294967295

/-- Reads a number. Whether there is one and it is not too large comes out apart from the rest of the text, since a
brace left open is reported before a bad number. -/
def readCount (ignoring : Bool) (text : List Char) : Except SyntaxError Nat × List Char :=
  let text := text.dropWhile isSpace
  let (digits, rest) := takeVisible ignoring (fun c => !c.isDigit) false text
  let number : Except SyntaxError Nat :=
    if digits.isEmpty then refuse .countEmpty text rest
    else if decimalNumber digits > maxCount then refuse .countTooLarge text rest
    else .ok (decimalNumber digits)
  (number, rest.dropWhile isSpace)

/-- Reads the counts, of which the first number is read already. The brace stands at `start`. -/
def readRange (ignoring : Bool) (start : List Char) (first : Except SyntaxError Nat) (text : List Char) :
    Reading (Nat × Option Nat) :=
  match text with
  | [] => refuse .countUnclosed start []
  | c :: cs =>
    if c == ',' then
      match skipIgnored ignoring cs with
      | [] => refuse .countUnclosed start []
      | d :: ds =>
        -- the first number is refused only after the text is known to go on
        match first with
        | .error e => .error e
        | .ok min =>
          if d == '}' then .ok ((min, none), d :: ds)
          else
            match readCount ignoring (d :: ds) with
            | (.error e, _) => .error e
            | (.ok max, rest) => .ok ((min, some max), rest)
    else
      match first with
      | .error e => .error e
      | .ok n => .ok ((n, some n), c :: cs)

/-- Whether a range of counts has a lower end above its upper end. -/
def isReversed (min : Nat) : Option Nat → Bool
  | none => false
  | some max => decide (max < min)

def readCounts (ignoring : Bool) (text : List Char) : Reading Count :=
  match skipIgnored ignoring (text.drop 1) with
  | [] => refuse .countUnclosed text []
  | c :: cs =>
    let (first, rest) := readCount ignoring (c :: cs)
    match readRange ignoring text first rest with
    | .error e => .error e
    | .ok ((min, max), rest) =>
      match rest with
      | '}' :: rest =>
        let (greedy, after) :=
          match skipIgnored ignoring rest with
          | '?' :: after => (false, after)
          | after => (true, after)
        -- the `?` behind the brace belongs to the place that is reported
        if isReversed min max then refuse .countReversed text after
        else .ok (⟨min, max, greedy⟩, after)
      | _ => refuse .countUnclosed text rest

/-- Reads one of the operators `?`, `*` and `+`, with the `?` that makes it lazy. -/
def readOperator (operator : Char) (rest : List Char) : Count × List Char :=
  let (greedy, after) :=
    match rest with
    | '?' :: after => (false, after)
    | after => (true, after)
  let min := if operator == '+' then 1 else 0
  let max := if operator == '?' then some 1 else none
  (⟨min, max, greedy⟩, after)

end PatternGrammar.Regex
