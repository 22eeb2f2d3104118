import PatternGrammar.Grammar

/-!
# Running a grammar

A run gives an outcome and the events on the way. Definitions are unfolded to a given depth, and a run that would have
to go deeper gives nothing. Texts get shorter only where something is taken from them, so a run that unfolds a
definition twice on texts of the same length inside one another never ends; the depth that `Grammar.parse` allows is
enough for all others.
-/

namespace PatternGrammar

/-- What a parser gives: a value and the text left, if it succeeds, and the events on the way. -/
structure Run (ν α : Type) where
  outcome : Option (α × Text)
  events : List (Event ν)
  deriving DecidableEq, Repr

namespace Run

variable {ν α β : Type}

def success (a : α) (rest : Text) : Run ν α :=
  ⟨some (a, rest), []⟩

/-- The run with events before it. -/
def after (events : List (Event ν)) (r : Run ν α) : Run ν α :=
  ⟨r.outcome, events ++ r.events⟩

def map (f : α → β) (r : Run ν α) : Run ν β :=
  ⟨r.outcome.map fun (a, rest) => (f a, rest), r.events⟩

/-- Goes on after a run that succeeds. -/
def andThen (r : Run ν α) (next : α → Text → Option (Run ν β)) : Option (Run ν β) :=
  match r.outcome with
  | none => some ⟨none, r.events⟩
  | some (a, rest) => (next a rest).map (after r.events)

/-- Goes on after a run that fails, with an event in between. -/
def otherwise (r : Run ν α) (event : Event ν) (next : Unit → Option (Run ν α)) : Option (Run ν α) :=
  match r.outcome with
  | some _ => some r
  | none => (next ()).map (after (r.events ++ [event]))

/-- Runs alternatives, of which the first has the given index, until one succeeds. -/
def firstOf (input : Text) : Nat → List (Text → Option (Run ν α)) → Option (Run ν α)
  | _, [] => some ⟨none, []⟩
  | index, p :: ps =>
    (p input).bind fun r =>
      r.otherwise (.alternativeFailed index ps.length) fun _ => firstOf input (index + 1) ps

def ofPattern (p : Pattern) (i : Interpreter α) (input : Text) : Run ν α :=
  let (extraction, events) := p.extractNoting input
  ⟨extraction.map fun e => (i.eval e, e.stripped), events⟩

end Run

namespace Grammar

variable {ν : Type} {τ : ν → Type}

/-- Runs a grammar, given how its definitions run. -/
def runWith (unfold : (name : ν) → Text → Option (Run ν (τ name))) {α : Type} :
    Grammar τ α → Text → Option (Run ν α)
  | regex p i, input => some (.ofPattern p i input)
  | fromFn f, input => some ⟨f input, []⟩
  | pure a, input => some (.success a input)
  | map f p, input => (p.runWith unfold input).map (.map f)
  | replace p b, input => (p.runWith unfold input).map (.map fun _ => b)
  | apply p q, input => do
    let r ← p.runWith unfold input
    r.andThen fun f rest => (q.runWith unfold rest).map (.map f)
  | keepRight p q, input => do
    let r ← p.runWith unfold input
    r.andThen fun _ rest => q.runWith unfold rest
  | keepLeft p q, input => do
    -- what the second parser takes is given back
    let r ← p.runWith unfold input
    r.andThen fun a rest => do
      let s ← q.runWith unfold rest
      s.andThen fun _ _ => some (.success a rest)
  | orElse p q, input => do
    let r ← p.runWith unfold input
    r.otherwise (.firstAlternativeFailed input) fun _ => q.runWith unfold input
  | oneOf ps, input => Run.firstOf input 0 (List.ofFn fun i => fun text => (ps i).runWith unfold text)
  | tuple2 p q, input => do
    let r ← p.runWith unfold input
    r.andThen fun a rest => (q.runWith unfold rest).map (.map fun b => (a, b))
  | tuple3 p q s, input => do
    let r ← p.runWith unfold input
    r.andThen fun a rest => do
      let r ← q.runWith unfold rest
      r.andThen fun b rest => (s.runWith unfold rest).map (.map fun c => (a, b, c))
  -- the one place where a grammar refers to another
  | lazy name, input => unfold name input
  | behind _ p, input => p.runWith unfold input
  | probe label p, input => (p.runWith unfold input).map (.after [.probed label input])

/-- Runs a definition that may unfold definitions inside it to the given depth, itself included. -/
def unfolding (body : (name : ν) → Grammar τ (τ name)) : Nat → (name : ν) → Text → Option (Run ν (τ name))
  | 0, _, _ => none
  | depth + 1, name, input =>
    ((body name).runWith (unfolding body depth) input).map (.after [.unfolded name])

/-- Runs a grammar that may unfold definitions inside one another to the given depth. -/
def runDepth (body : (name : ν) → Grammar τ (τ name)) (depth : Nat) {α : Type} (g : Grammar τ α) (input : Text) :
    Option (Run ν α) :=
  g.runWith (unfolding body depth) input

/-- Runs a grammar. Each name can be unfolded inside itself once for each length of the text left. -/
def parse (defs : Definitions τ) {α : Type} (g : Grammar τ α) (input : Text) : Option (Run ν α) :=
  g.runDepth defs.body (defs.names.length * (input.length + 1)) input

end Grammar

end PatternGrammar
