import PatternGrammar.Config.Loading
import PatternGrammar.Grammar.Run
import PatternGrammar.Recipe.Value

/-!
# Recipes

A recipe describes a grammar by data. `Recipe.build` compiles its patterns, from left to right and inside out, and
reports the first one that is refused.
-/

namespace PatternGrammar.Recipe

/-- An interpreter described by data. -/
inductive Reading where
  /-- The list of the groups. -/
  | groups
  /-- The group at an index. -/
  | group (index : Nat)
  /-- The text without the match. -/
  | stripped
  | constant (v : Value)
  /-- The groups in a row. -/
  | concat
  /-- The number of the groups. -/
  | count
  /-- The text without the match, and the list of the groups. -/
  | all
  | map (f : Function) (r : Reading)

namespace Reading

def groupList (groups : List Text) : Value :=
  .list (groups.map .string)

def toInterpreter : Reading → Interpreter Value
  | groups => Interpreter.groups.map groupList
  | group index => (Interpreter.group index).map fun
      | some text => .string text
      | none => .null
  | stripped => Interpreter.stripped.map .string
  | constant v => .constant v
  | concat => ⟨fun e => .string e.groups.flatten⟩
  | count => ⟨fun e => .int e.groups.length⟩
  | all => ⟨fun e => .list [.string e.stripped, groupList e.groups]⟩
  | map f r => r.toInterpreter.map f.call

end Reading

/-- Options as they are given: in full, or as JSON text. -/
inductive Options where
  | given (config : Config)
  | json (text : Text)
  deriving DecidableEq, Repr

def Options.load : Options → Except PatternError Config
  | given config => .ok config
  | json text => Config.ofJson text

def compile (options : Options) (pattern : Text) : Except PatternError Pattern :=
  match options.load with
  | .error e => .error e
  | .ok config => Pattern.compile config pattern

/-- The events of an error: a pattern that is refused is noted, options that are refused are not. -/
def eventsOf {ν : Type} : PatternError → List (Event ν)
  | e@(.invalidPattern p _) => [.compileFailed p.toList e.message]
  | e@(.patternTooLarge p _) => [.compileFailed p.toList e.message]
  | .invalidConfig _ => []

end Recipe

/-- A grammar described by data, over definitions that are named by texts. -/
inductive Recipe where
  | regex (options : Recipe.Options) (pattern : Text) (reading : Recipe.Reading)
  | map (f : Recipe.Function) (p : Recipe)
  | replace (v : Recipe.Value) (p : Recipe)
  | pure (v : Recipe.Value)
  | apply (p q : Recipe)
  | keepRight (p q : Recipe)
  | keepLeft (p q : Recipe)
  | orElse (p q : Recipe)
  | choice (ps : List Recipe)
  | tuple2 (p q : Recipe)
  | tuple3 (p q r : Recipe)
  | lazy (name : String)
  | behind (pointer : Pointer) (p : Recipe)
  | fail
  | anyChar
  | rest
  | eof
  | probe (label : String) (p : Recipe)

namespace Recipe

/-- The grammars that recipes describe: all definitions have values of one type. -/
abbrev Built := Grammar (fun _ : String => Value) Value

/-- Two grammars made into one, or the error of the first that has one. -/
def both (f : Built → Built → Built) (p q : Except PatternError Built) : Except PatternError Built :=
  match p with
  | .error e => .error e
  | .ok p =>
    match q with
    | .error e => .error e
    | .ok q => .ok (f p q)

mutual

def build : Recipe → Except PatternError Built
  | regex options pattern reading =>
    match compile options pattern with
    | .error e => .error e
    | .ok p => .ok (.regex p reading.toInterpreter)
  | map f p => p.build.map (.map f.call)
  | replace v p => p.build.map (.value v)
  | pure v => .ok (.pure v)
  | apply p q => both (fun p q => .apply (.map Value.call p) q) p.build q.build
  | keepRight p q => both .keepRight p.build q.build
  | keepLeft p q => both .keepLeft p.build q.build
  | orElse p q => both .orElse p.build q.build
  | choice ps => (buildAll ps).map .choice
  | tuple2 p q => both (fun p q => .map (fun (a, b) => .list [a, b]) (.tuple2 p q)) p.build q.build
  | tuple3 p q r =>
    match p.build with
    | .error e => .error e
    | .ok p => both (fun q r => .map (fun (a, b, c) => .list [a, b, c]) (.tuple3 p q r)) q.build r.build
  | lazy name => .ok (.lazy name)
  | behind pointer p => p.build.map (.behind pointer)
  | fail => .ok .fail
  | anyChar => .ok (.map (fun c => .string [c]) .anyChar)
  | rest => .ok (.map .string .rest)
  | eof => .ok (.map (fun _ => .null) .eof)
  | probe label p => p.build.map (.probe label)

def buildAll : List Recipe → Except PatternError (List Built)
  | [] => .ok []
  | p :: ps =>
    match p.build with
    | .error e => .error e
    | .ok g =>
      match buildAll ps with
      | .error e => .error e
      | .ok gs => .ok (g :: gs)

end

/-- The definitions that some named recipes describe. Names that have none fail. -/
def buildDefinitions (recipes : List (String × Recipe)) :
    Except PatternError (Definitions fun _ : String => Value) :=
  -- the first one that is refused is that of the first name
  let sorted := recipes.mergeSort fun r s => r.1 ≤ s.1
  match buildAll (sorted.map (·.2)) with
  | .error e => .error e
  | .ok built =>
    let table := (sorted.map (·.1)).zip built
    .ok ⟨sorted.map (·.1), fun name => (table.lookup name).getD .fail⟩

/-- The definitions and the grammar that recipes describe; the definitions are compiled first, in the order of their
names. -/
def buildSystem (recipes : List (String × Recipe)) (top : Recipe) :
    Except PatternError ((Definitions fun _ : String => Value) × Built) :=
  match buildDefinitions recipes with
  | .error e => .error e
  | .ok defs =>
    match top.build with
    | .error e => .error e
    | .ok g => .ok (defs, g)

end Recipe

end PatternGrammar
