import PatternGrammar.CharSet.Comparison
import PatternGrammar.Regex.Expr

/-!
# Choices

A choice between single characters is a set. A choice between branches that all begin alike is that beginning, followed
by a choice between what remains of the branches: the beginning is matched before a branch is preferred, so that
`a*b|a*c` prefers a longer run of `a` to its first branch.

Branches begin alike piece by piece, where a piece is a run of literal characters or any other item. A literal is never
divided, and a branch of one piece has no beginning that it could share.
-/

namespace PatternGrammar.Regex.Expr

/-- Whether two expressions are the same up to the way in which sets are written. -/
def same : Expr → Expr → Bool
  | empty, empty => true
  | chars s, chars t => s.same t
  | assertion a, assertion b => a == b
  | cat e f, cat g h => e.same g && f.same h
  | alt e f, alt g h => e.same g && f.same h
  | group m e, group n f => m == n && e.same f
  | repetition lo hi greedy e, repetition lo' hi' greedy' f =>
      lo == lo' && hi == hi' && greedy == greedy' && e.same f
  | _, _ => false

def isLiteral : Expr → Bool
  | chars s => s.isSingle
  | _ => false

def set? : Expr → Option CharSet
  | chars s => some s
  | _ => none

/-- A run of literal characters, or one other item. -/
abbrev Piece := List Expr

def addToPieces (e : Expr) : List Piece → List Piece
  | (f :: fs) :: ps => if e.isLiteral && f.isLiteral then (e :: f :: fs) :: ps else [e] :: (f :: fs) :: ps
  | ps => [e] :: ps

def pieces (e : Expr) : List Piece :=
  e.items.foldr addToPieces []

/-- The pieces of an expression are its items in order. -/
theorem flatten_addToPieces (e : Expr) (ps : List Piece) : (addToPieces e ps).flatten = e :: ps.flatten := by
  unfold addToPieces
  split
  · split <;> simp
  · simp

/-- Dividing an expression into pieces loses none of its items. -/
theorem flatten_pieces (e : Expr) : e.pieces.flatten = e.items := by
  unfold pieces
  induction e.items with
  | nil => rfl
  | cons x xs ih => rw [List.foldr_cons, flatten_addToPieces, ih]

def Piece.same (p q : Piece) : Bool :=
  p.length == q.length && (p.zip q).all fun x => Expr.same x.1 x.2

/-- The number of pieces with which two lists of pieces begin alike. -/
def sharedPieces : List Piece → List Piece → Nat
  | p :: ps, q :: qs => if p.same q then sharedPieces ps qs + 1 else 0
  | _, _ => 0

/-- The number of pieces with which all branches begin. -/
def commonPieces : List (List Piece) → Nat
  | [] => 0
  | first :: others =>
      if (first :: others).all fun ps => 2 ≤ ps.length then
        -- each branch is compared with what those before it share
        others.foldl (fun n ps => Nat.min n (sharedPieces (first.take n) ps)) first.length
      else 0

/-- A choice between branches that do not begin alike: a set where all are literal characters or all are other sets. -/
def join (es : List Expr) : Expr :=
  match es with
  | [] => empty
  | [e] => e
  | _ =>
    match es.mapM set? with
    -- a choice between literal characters and other sets stays a choice
    | some sets => if es.all isLiteral || es.all (!·.isLiteral) then chars (.unions sets) else ofBranches es
    | none => ofBranches es

/-- A choice between some expressions; a pattern has at least one. -/
def choice (es : List Expr) : Expr :=
  let branches := es.flatMap branches
  let parts := branches.map pieces
  match parts, commonPieces parts with
  | first :: _, n + 1 =>
      let rests := parts.map fun ps => ofItems (ps.drop (n + 1)).flatten
      -- what is left of a branch may be a choice itself
      ofItems ((first.take (n + 1)).flatten ++ (join (rests.flatMap Expr.branches)).items)
  | _, _ => join branches

end PatternGrammar.Regex.Expr
