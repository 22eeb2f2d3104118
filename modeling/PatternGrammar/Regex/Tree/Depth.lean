import PatternGrammar.Regex.Fault
import PatternGrammar.Regex.Tree

/-!
# The depth of a pattern tree

Concatenations, alternations, repetitions, groups, brackets, and the unions and operations inside them each lie one
level below what they stand in. `Tree.checkDepth` refuses a pattern at the first node, parents before children and left
before right, that lies deeper than a limit.
-/

namespace PatternGrammar.Regex

/-- Goes one level down, unless that is below the limit. -/
def descend (limit depth : Nat) (span : Span) (inside : Nat → Except SyntaxError Unit) : Except SyntaxError Unit :=
  if limit < depth + 1 then refuseAt (.nestLimitExceeded limit) span else inside (depth + 1)

mutual

def ClassTree.checkDepth (limit depth : Nat) : ClassTree → Except SyntaxError Unit
  | .empty _ | .literal _ | .range _ _ _ | .named _ _ _ | .short _ _ _ | .property _ _ _ => .ok ()
  | .bracket span _ body => descend limit depth span fun depth => body.checkDepth limit depth
  | .union span items => descend limit depth span fun depth => ClassTree.checkDepths limit depth items
  | .operation span _ left right => descend limit depth span fun depth =>
      match left.checkDepth limit depth with
      | .error e => .error e
      | .ok () => right.checkDepth limit depth

def ClassTree.checkDepths (limit depth : Nat) : List ClassTree → Except SyntaxError Unit
  | [] => .ok ()
  | t :: ts =>
      match t.checkDepth limit depth with
      | .error e => .error e
      | .ok () => ClassTree.checkDepths limit depth ts

end

mutual

/-- Checks that the nodes of a tree that lies at `depth` keep to the limit. -/
def Tree.checkDepthFrom (limit depth : Nat) : Tree → Except SyntaxError Unit
  | .empty _ | .flags _ _ | .literal _ | .dot _ | .assertion _ _ | .short _ _ _ | .property _ _ _ => .ok ()
  | .bracket span _ body => descend limit depth span fun depth => body.checkDepth limit depth
  | .repetition span _ _ _ body => descend limit depth span fun depth => body.checkDepthFrom limit depth
  | .group span _ body => descend limit depth span fun depth => body.checkDepthFrom limit depth
  | .alternation span branches => descend limit depth span fun depth => Tree.checkDepths limit depth branches
  | .concat span items => descend limit depth span fun depth => Tree.checkDepths limit depth items

def Tree.checkDepths (limit depth : Nat) : List Tree → Except SyntaxError Unit
  | [] => .ok ()
  | t :: ts =>
      match t.checkDepthFrom limit depth with
      | .error e => .error e
      | .ok () => Tree.checkDepths limit depth ts

end

/-- Checks that no node of a pattern lies deeper than the limit. -/
def Tree.checkDepth (limit : Nat) (tree : Tree) : Except SyntaxError Unit :=
  tree.checkDepthFrom limit 0

end PatternGrammar.Regex
