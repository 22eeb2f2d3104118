import PatternGrammar.Config
import PatternGrammar.PatternError
import PatternGrammar.Regex.Elaboration
import PatternGrammar.Regex.Report
import PatternGrammar.Regex.Search
import PatternGrammar.Regex.Tree.Depth
import PatternGrammar.Regex.Tree.OfText
import PatternGrammar.Text

/-!
# Patterns

A pattern finds its first match anywhere in a text and cuts it out. What is left of the text and what the pattern's
groups have matched is the extraction. Characters before the match are passed over, not taken; a pattern that starts
with `^` matches at the start of a text only.
-/

namespace PatternGrammar

/-- What a pattern has taken out of a text. -/
structure Extraction where
  /-- The text without the match. -/
  stripped : Text
  /-- What the capture groups matched, in the order of the pattern; groups that took no part or matched nothing are left
  out. -/
  groups : List Text
  deriving DecidableEq, Repr

structure Pattern where
  /-- The pattern as it was written. -/
  text : Text
  program : Regex.Program
  deriving Repr

namespace Config

def flags (c : Config) : Regex.Flags where
  caseInsensitive := c.caseInsensitive
  multiLine := c.multiLine
  dotMatchesNewLine := c.dotMatchesNewLine
  swapGreed := false
  unicode := true
  crlf := false

end Config

namespace Pattern

/-- What a pattern means: its expression and the number of its capture groups. A fault in the pattern as it is written
comes before its depth, and that before names without a meaning. -/
def meaning (config : Config) (pattern : Text) : Except Regex.SyntaxError (Regex.Expr × Nat) :=
  match Regex.Tree.ofText pattern with
  | .error e => .error e
  | .ok tree =>
    match tree.checkDepth config.nestLimit.toNat with
    | .error e => .error e
    | .ok () =>
      match tree.elaborate ⟨config.flags, 1⟩ with
      | .error e => .error e
      | .ok (e, scope) => .ok (e, scope.nextGroup - 1)

/-- Compiles a pattern. How many bytes the program for an expression takes depends on the engine that runs it, so the
measure is a parameter. -/
def compileBy (size : Regex.Expr → Nat) (config : Config) (pattern : Text) : Except PatternError Pattern :=
  match meaning config pattern with
  | .error e => .error (.invalidPattern (String.ofList pattern) (e.report pattern))
  | .ok (e, groups) =>
    let limit := config.sizeLimit.toNat
    -- the size is known before the program is made, so none that is too large is ever made
    if limit < size e then
      .error (.patternTooLarge (String.ofList pattern) ("compiled size exceeds " ++ toString limit ++ " bytes"))
    else .ok ⟨pattern, .ofExpr e groups⟩

/-- Compiles a pattern, measured by the instructions of its program. -/
def compile (config : Config) (pattern : Text) : Except PatternError Pattern :=
  compileBy Regex.Program.bytes config pattern

def groupText? (text : Text) (marks : Regex.Marks) (n : Nat) : Option Text :=
  match marks.last? (2 * n), marks.last? (2 * n + 1) with
  | some start, some stop => some (text.piece start stop)
  | _, _ => none

/-- Takes the first match out of a text. -/
def extract (p : Pattern) (query : Text) : Option Extraction :=
  match p.program.search? query with
  | none => none
  | some marks =>
    match marks.last? 0, marks.last? 1 with
    | some start, some stop =>
      -- group 0 is the whole match
      let numbers := List.range' 1 p.program.groups
      some ⟨query.take start ++ query.drop stop,
        (numbers.filterMap (groupText? query marks)).filter fun t => !t.isEmpty⟩
    | _, _ => none

end Pattern

/-- Compiles a pattern with standard options and takes its first match out of a text. -/
def extract (pattern query : Text) : Except PatternError (Option Extraction) :=
  match Pattern.compile .standard pattern with
  | .error e => .error e
  | .ok p => .ok (p.extract query)

end PatternGrammar
