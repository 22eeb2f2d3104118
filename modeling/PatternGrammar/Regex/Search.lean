import PatternGrammar.Regex.Program

/-!
# Searching a text

A program is run from each place of a text in turn until it matches. A run keeps one thread for each instruction that
can be reached, in order of preference, and moves them all forward one character at a time; when two threads meet at an
instruction the one that is less preferred ends. A run thus takes time in proportion to the text and the program,
however the pattern is nested.
-/

namespace PatternGrammar.Regex

/-- The positions noted on the way, the last one in front. -/
abbrev Marks := List (Nat × Nat)

/-- The position noted last under a number. -/
def Marks.last? (marks : Marks) (slot : Nat) : Option Nat :=
  (marks.find? (·.1 == slot)).map (·.2)

/-- A run that waits at an instruction. -/
structure Thread where
  place : Nat
  marks : Marks
  deriving DecidableEq, Repr

/-- The place in a text where threads are: its number and the characters around it. -/
structure Cursor where
  position : Nat
  before : Option Char
  after : Option Char
  deriving DecidableEq, Repr

/-- The threads at one place of the text, the most preferred last, and the instructions that have been reached. -/
structure Front where
  reached : Array Bool
  threads : List Thread
  deriving Repr

namespace Front

def start (program : Program) : Front :=
  ⟨Array.replicate program.code.size false, []⟩

end Front

namespace Program

/-- Follows a thread through all instructions that read nothing, and adds what waits to read or to accept. An
instruction is entered once; each call enters one more, so the fuel is the length of the code. -/
def follow (program : Program) (cursor : Cursor) : Nat → Nat → Marks → Front → Front
  | 0, _, _, front => front
  | fuel + 1, place, marks, front =>
    -- a place behind the code counts as reached
    if front.reached.getD place true then front
    else
      let front : Front := ⟨front.reached.setIfInBounds place true, front.threads⟩
      match program.code[place]? with
      | none => front
      | some (.jump target) => program.follow cursor fuel target marks front
      | some (.branch first second) =>
        -- what the first branch reaches is not entered again from the second
        program.follow cursor fuel second marks (program.follow cursor fuel first marks front)
      | some (.mark slot) => program.follow cursor fuel (place + 1) ((slot, cursor.position) :: marks) front
      | some (.assertion a) =>
        if a.holds cursor.before cursor.after then program.follow cursor fuel (place + 1) marks front else front
      | some (.chars _) => ⟨front.reached, ⟨place, marks⟩ :: front.threads⟩
      | some .accept => ⟨front.reached, ⟨place, marks⟩ :: front.threads⟩

def enter (program : Program) (cursor : Cursor) (place : Nat) (marks : Marks) (front : Front) : Front :=
  program.follow cursor program.code.size place marks front

/-- Moves threads, the most preferred first, over a character to the place after it. A thread that accepts ends those
after it. -/
def advance (program : Program) (c : Char) (cursor : Cursor) : List Thread → Front → Front × Option Marks
  | [], front => (front, none)
  | t :: ts, front =>
    match program.code[t.place]? with
    | some (.chars s) =>
      program.advance c cursor ts (if s.mem c then program.enter cursor (t.place + 1) t.marks front else front)
    | some .accept => (front, some t.marks)
    | _ => program.advance c cursor ts front

/-- The marks of the first thread that accepts. -/
def accepted? (program : Program) (threads : List Thread) : Option Marks :=
  (threads.find? fun t => program.code[t.place]? == some .accept).map (·.marks)

/-- Runs threads, the most preferred first, on a text. A match found later is preferred to the `best` one so far,
because only the threads preferred to that one were left. -/
def run (program : Program) (position : Nat) (threads : List Thread) (best : Option Marks) :
    List Char → Option Marks
  | [] => (program.accepted? threads).or best
  | c :: cs =>
    let (front, found) := program.advance c ⟨position + 1, some c, cs.head?⟩ threads (.start program)
    let best := found.or best
    -- the front holds the most preferred thread last, the next step takes it first
    if front.threads.isEmpty then best
    else program.run (position + 1) front.threads.reverse best cs

def matchAt? (program : Program) (position : Nat) (before : Option Char) (text : List Char) : Option Marks :=
  let front := program.enter ⟨position, before, text.head?⟩ 0 [] (.start program)
  program.run position front.threads.reverse none text

/-- The first match at some place of a text. -/
def searchFrom? (program : Program) (position : Nat) (before : Option Char) : List Char → Option Marks
  | [] => program.matchAt? position before []
  | c :: cs =>
    match program.matchAt? position before (c :: cs) with
    | some marks => some marks
    | none => program.searchFrom? (position + 1) (some c) cs

def search? (program : Program) (text : List Char) : Option Marks :=
  program.searchFrom? 0 none text

end Program

end PatternGrammar.Regex
