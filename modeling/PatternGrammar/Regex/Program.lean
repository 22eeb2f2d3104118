import PatternGrammar.Regex.Expr

/-!
# Programs

An expression becomes a list of instructions for a machine that reads a text from left to right. Code runs into the
instruction after it, so the code of a sequence is the code of its parts in a row. The place where code is put is an
argument, because branches name the places they lead to.
-/

namespace PatternGrammar.Regex

inductive Instruction where
  /-- Reads a character of a set. -/
  | chars (set : CharSet)
  /-- Goes on where an assertion holds. -/
  | assertion (a : Assertion)
  /-- Notes the position under a number: `2 n` for the start of group `n`, `2 n + 1` for its end. -/
  | mark (slot : Nat)
  | jump (target : Nat)
  /-- Goes on at either of two places, preferring the first. -/
  | branch (first second : Nat)
  /-- Ends with a match. -/
  | accept
  deriving DecidableEq, Repr

/-- The branch of a repetition: a greedy one prefers to go on, a lazy one to leave. -/
def Instruction.loop (greedy : Bool) (again leave : Nat) : Instruction :=
  if greedy then branch again leave else branch leave again

namespace Expr

/-- The number of instructions of an expression. -/
def size : Expr → Nat
  | empty => 0
  | chars _ => 1
  | assertion _ => 1
  | cat e f => e.size + f.size
  | alt e f => e.size + f.size + 2
  | group _ e => e.size + 2
  | repetition 0 none _ e => e.size + 2
  | repetition (min + 1) none _ e => (min + 1) * e.size + 1
  | repetition min (some max) _ e => min * e.size + (max - min) * (e.size + 1)

def code : Expr → Nat → List Instruction
  | empty, _ => []
  | chars s, _ => [.chars s]
  | assertion a, _ => [.assertion a]
  | cat e f, at_ => e.code at_ ++ f.code (at_ + e.size)
  | alt e f, at_ =>
      let right := at_ + e.size + 2
      .branch (at_ + 1) right :: e.code (at_ + 1) ++ .jump (right + f.size) :: f.code right
  | group n e, at_ => .mark (2 * n) :: e.code (at_ + 1) ++ [.mark (2 * n + 1)]
  | repetition 0 none greedy e, at_ =>
      let leave := at_ + e.size + 2
      -- where the body may match the empty text it goes on to a branch of its own, so that the first branch is not
      -- entered twice at one place
      .loop greedy (at_ + 1) leave :: e.code (at_ + 1) ++
        [if e.isNullable then .loop greedy (at_ + 1) leave else .jump at_]
  | repetition (min + 1) none greedy e, at_ =>
      let last := at_ + min * e.size
      -- the last of the copies that are needed is the body of the loop
      ((List.range (min + 1)).flatMap fun k => e.code (at_ + k * e.size)) ++ [.loop greedy last (last + e.size + 1)]
  | repetition min (some max) greedy e, at_ =>
      let optional := at_ + min * e.size
      let leave := optional + (max - min) * (e.size + 1)
      -- every optional copy is left for the end of the last one, not for the next one
      ((List.range min).flatMap fun k => e.code (at_ + k * e.size)) ++
        (List.range (max - min)).flatMap fun k =>
          let here := optional + k * (e.size + 1)
          .loop greedy (here + 1) leave :: e.code (here + 1)

/-- The code of copies in a row has a multiple of the length of one. -/
theorem length_flatMap_range {α : Type} {n m : Nat} {f : Nat → List α} (h : ∀ k, (f k).length = m) :
    ((List.range n).flatMap f).length = n * m := by
  simp [List.length_flatMap, h, List.map_const']

/-- The size of an expression is known before its code. -/
theorem length_code (e : Expr) (at_ : Nat) : (e.code at_).length = e.size := by
  induction e generalizing at_ with
  | empty => rfl
  | chars _ => rfl
  | assertion _ => rfl
  | cat e f ihe ihf => simp [code, size, ihe, ihf]
  | alt e f ihe ihf =>
    simp [code, size, ihe, ihf]
    omega
  | group n e ih => simp [code, size, ih]
  | repetition min max greedy e ih =>
    cases max with
    | none =>
      cases min with
      | zero => simp [code, size, ih]
      | succ min =>
        simp only [code, size, List.length_append, List.length_singleton]
        rw [length_flatMap_range fun k => ih _]
    | some max =>
      simp only [code, size, List.length_append]
      rw [length_flatMap_range fun k => ih _, length_flatMap_range (m := e.size + 1)]
      intro k
      simp [ih]

end Expr

structure Program where
  code : Array Instruction
  groups : Nat
  deriving Repr

namespace Program

/-- The program that matches an expression as group 0 and accepts. -/
def ofExpr (e : Expr) (groups : Nat) : Program :=
  ⟨((Expr.group 0 e).code 0 ++ [Instruction.accept]).toArray, groups⟩

/-- The room that an instruction takes in this library, in bytes. Other engines measure their programs in other ways. -/
def bytesPerInstruction : Nat :=
  32

def bytes (e : Expr) : Nat :=
  bytesPerInstruction * ((Expr.group 0 e).size + 1)

/-- The measure of an expression is the room that its program takes, so that it can be known before there is one. -/
theorem bytes_eq (e : Expr) (groups : Nat) : bytes e = bytesPerInstruction * (ofExpr e groups).code.size := by
  rw [bytes, ofExpr, List.size_toArray, List.length_append, Expr.length_code, List.length_singleton]

end Program

end PatternGrammar.Regex
