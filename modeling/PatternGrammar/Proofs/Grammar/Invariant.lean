import PatternGrammar.Proofs.Grammar.Run

/-!
# Invariants of runs

What holds of the runs of patterns and functions, and is kept when runs are put together, holds of the runs of all
grammars that are built from them (`Grammar.BuiltFrom.holds`), however deep their definitions are unfolded.
-/

namespace PatternGrammar

/-- What a grammar may be built from. -/
structure Parts (ν : Type) where
  pattern : Pattern → Prop
  /-- Functions are told by the text that they leave. -/
  function : (Text → Option Text) → Prop
  orElse : Prop
  /-- Choices are told by the number of their alternatives. -/
  choice : Nat → Prop
  definition : ν → Prop

/-- A grammar is built from some parts only. What stands behind a name is not looked at. -/
def Grammar.BuiltFrom {ν : Type} {τ : ν → Type} (parts : Parts ν) : {α : Type} → Grammar τ α → Prop
  | _, regex p _ => parts.pattern p
  | _, fromFn f => parts.function fun text => (f text).map (·.2)
  | _, pure _ => True
  | _, map _ p => p.BuiltFrom parts
  | _, replace p _ => p.BuiltFrom parts
  | _, apply p q => p.BuiltFrom parts ∧ q.BuiltFrom parts
  | _, keepRight p q => p.BuiltFrom parts ∧ q.BuiltFrom parts
  | _, keepLeft p q => p.BuiltFrom parts ∧ q.BuiltFrom parts
  | _, orElse p q => parts.orElse ∧ p.BuiltFrom parts ∧ q.BuiltFrom parts
  | _, @oneOf _ _ _ n ps => parts.choice n ∧ ∀ i, (ps i).BuiltFrom parts
  | _, tuple2 p q => p.BuiltFrom parts ∧ q.BuiltFrom parts
  | _, tuple3 p q s => p.BuiltFrom parts ∧ q.BuiltFrom parts ∧ s.BuiltFrom parts
  | _, lazy name => parts.definition name
  | _, behind _ p => p.BuiltFrom parts
  | _, probe _ p => p.BuiltFrom parts

/-- A property of the text a parser is run on, the text it leaves if it succeeds and its events is kept when runs of
some parts are put together. -/
structure Parts.Keep {ν : Type} (parts : Parts ν)
    (P : Text → Option Text → List (Event ν) → Prop) : Prop where
  found {p : Pattern} {input : Text} {x : Extraction} (hp : parts.pattern p)
    (hx : p.extract input = some x) : P input (some x.stripped) []
  missed {p : Pattern} {input : Text} (hp : parts.pattern p) (hx : p.extract input = none) :
    P input none [.noMatch p.text input]
  function (f : Text → Option Text) (input : Text) (hf : parts.function f) : P input (f input) []
  stay (input : Text) : P input (some input) []
  /-- A parser that is run on what another one left. -/
  sequence {input rest : Text} {left : Option Text} {es es' : List (Event ν)}
    (h : P input (some rest) es) (h' : P rest left es') : P input left (es ++ es')
  /-- Going back to the text that a parser was run on. -/
  back {input rest : Text} {es : List (Event ν)} (h : P input (some rest) es) :
    P input (some input) es
  orElse {input : Text} {left : Option Text} {es es' : List (Event ν)} (hparts : parts.orElse)
    (h : P input none es) (h' : P input left es') :
    P input left (es ++ [.firstAlternativeFailed input] ++ es')
  /-- An alternative that fails before others are tried. -/
  alternative {n remaining : Nat} {input : Text} {left : Option Text} {es es' : List (Event ν)}
    (index : Nat) (hparts : parts.choice n) (h : P input none es) (h' : P input left es') :
    P input left (es ++ [.alternativeFailed index (remaining + 1)] ++ es')
  lastAlternative {n : Nat} {input : Text} {es : List (Event ν)} (index : Nat)
    (hparts : parts.choice n) (h : P input none es) : P input none (es ++ [.alternativeFailed index 0])
  noAlternative (input : Text) (hparts : parts.choice 0) : P input none []
  unfolded {input : Text} {left : Option Text} {es : List (Event ν)} (name : ν)
    (h : P input left es) : P input left (.unfolded name :: es)
  probed {input : Text} {left : Option Text} {es : List (Event ν)} (label : String)
    (h : P input left es) : P input left (.probed label input :: es)

namespace Run

variable {ν α β : Type} {P : Text → Option Text → List (Event ν) → Prop}

/-- A property holds of a run if the run gives anything. -/
def Holds (P : Text → Option Text → List (Event ν) → Prop) (input : Text) (o : Option (Run ν α)) : Prop :=
  ∀ r, o = some r → P input (r.outcome.map (·.2)) r.events

namespace Holds

variable {parts : Parts ν} {input : Text} {o : Option (Run ν α)}

theorem map (ho : Holds P input o) (f : α → β) : Holds P input (o.map (.map f)) := by
  intro s hs
  obtain ⟨r, hr, rfl⟩ := Option.map_eq_some_iff.mp hs
  have hP := ho r hr
  simp only [Run.map, Option.map_map]
  exact hP

/-- A property that parts keep is kept by a run with another one behind it. -/
theorem andThen {next : α → Text → Option (Run ν β)} (hP : parts.Keep P) (ho : Holds P input o)
    (hnext : ∀ a rest, Holds P rest (next a rest)) : Holds P input (o.bind fun r => r.andThen next) := by
  intro s hs
  obtain ⟨r, hr, ⟨houtcome, rfl⟩ | ⟨a, rest, s', houtcome, hs', rfl⟩⟩ := andThen_eq_some.mp hs
  · have hfirst := ho r hr
    rw [houtcome] at hfirst
    exact hfirst
  · have hfirst := ho r hr
    rw [houtcome] at hfirst
    exact hP.sequence hfirst (hnext a rest s' hs')

/-- A parser whose value and whose text left are not kept. -/
theorem back (hP : parts.Keep P) (ho : Holds P input o) (b : β) :
    Holds P input (o.bind fun r => r.andThen fun _ _ => some (.success b input)) := by
  intro s hs
  obtain ⟨r, hr, ⟨houtcome, rfl⟩ | ⟨a, rest, s', houtcome, hs', rfl⟩⟩ := andThen_eq_some.mp hs
  · have hfirst := ho r hr
    rw [houtcome] at hfirst
    exact hfirst
  · have hfirst := ho r hr
    rw [houtcome] at hfirst
    obtain rfl := Option.some.inj hs'
    simp only [after, success, Option.map_some, List.append_nil]
    exact hP.back hfirst

/-- A property that parts keep is kept by the second of two alternatives. -/
theorem orElse {next : Unit → Option (Run ν α)} (hP : parts.Keep P) (hparts : parts.orElse)
    (ho : Holds P input o) (hnext : Holds P input (next ())) :
    Holds P input (o.bind fun r => r.otherwise (.firstAlternativeFailed input) next) := by
  intro s hs
  obtain ⟨r, hr, ⟨-, rfl⟩ | ⟨houtcome, s', hs', rfl⟩⟩ := otherwise_eq_some.mp hs
  · exact ho s hr
  · have hfirst := ho r hr
    rw [houtcome] at hfirst
    exact hP.orElse hparts hfirst (hnext s' hs')

theorem firstOf {n : Nat} (hP : parts.Keep P) (hparts : parts.choice n) (index : Nat)
    {ps : List (Text → Option (Run ν α))} (hne : ps ≠ []) (hps : ∀ p ∈ ps, Holds P input (p input)) :
    Holds P input (Run.firstOf input index ps) := by
  induction ps generalizing index with
  | nil => contradiction
  | cons p ps ih =>
    intro s hs
    have hp := hps p List.mem_cons_self
    obtain ⟨r, hr, ⟨-, rfl⟩ | ⟨houtcome, s', hs', rfl⟩⟩ := otherwise_eq_some.mp hs
    · exact hp s hr
    · have hfirst := hp r hr
      rw [houtcome] at hfirst
      -- only the last alternative is not followed by another one
      cases ps with
      | nil =>
        obtain rfl := Option.some.inj hs'
        have hlast := hP.lastAlternative index hparts hfirst
        simp only [after, List.length_nil, List.append_nil]
        exact hlast
      | cons q qs =>
        have hrest := ih (index + 1) (List.cons_ne_nil q qs)
          (fun q' hq' => hps q' (List.mem_cons_of_mem p hq')) s' hs'
        exact hP.alternative index hparts hfirst hrest

end Holds

end Run

namespace Grammar

variable {ν : Type} {τ : ν → Type} {parts : Parts ν} {P : Text → Option Text → List (Event ν) → Prop}

theorem holds_ofPattern {α : Type} (hP : parts.Keep P) {p : Pattern} (hp : parts.pattern p)
    (i : Interpreter α) (input : Text) : Run.Holds P input (some (.ofPattern p i input)) := by
  intro r hr
  obtain rfl := Option.some.inj hr
  unfold Run.ofPattern Pattern.extractNoting
  cases hx : p.extract input with
  | none => exact hP.missed hp hx
  | some x => exact hP.found hp hx

/-- What is kept holds of the runs of a grammar where it does of those of its definitions. -/
theorem runWith_holds (hP : parts.Keep P) {unfold : (name : ν) → Text → Option (Run ν (τ name))}
    (hunfold : ∀ name, parts.definition name → ∀ input, Run.Holds P input (unfold name input)) {α : Type}
    {g : Grammar τ α} (hg : g.BuiltFrom parts) (input : Text) : Run.Holds P input (g.runWith unfold input) := by
  induction g generalizing input with
  | regex p i => exact holds_ofPattern hP hg i input
  | fromFn f =>
    intro r hr
    obtain rfl := Option.some.inj hr
    exact hP.function _ input hg
  | pure a =>
    intro r hr
    obtain rfl := Option.some.inj hr
    exact hP.stay input
  | map f p ih => exact (ih hg input).map f
  | replace p b ih => exact (ih hg input).map _
  | apply p q ihp ihq => exact (ihp hg.1 input).andThen hP fun f rest => (ihq hg.2 rest).map f
  | keepRight p q ihp ihq => exact (ihp hg.1 input).andThen hP fun _ rest => ihq hg.2 rest
  | keepLeft p q ihp ihq =>
    exact (ihp hg.1 input).andThen hP fun a rest => (ihq hg.2 rest).back hP a
  | orElse p q ihp ihq => exact .orElse hP hg.1 (ihp hg.2.1 input) (ihq hg.2.2 input)
  | @oneOf α n ps ih =>
    obtain ⟨hn, hps⟩ := hg
    cases n with
    | zero =>
      intro r hr
      rw [runWith, List.ofFn_zero] at hr
      obtain rfl := Option.some.inj hr
      exact hP.noAlternative input hn
    | succ n =>
      refine .firstOf hP hn 0 ?_ fun p hp => ?_
      · rw [List.ofFn_succ]
        exact List.cons_ne_nil _ _
      · obtain ⟨i, rfl⟩ := List.mem_ofFn.mp hp
        exact ih i (hps i) input
  | tuple2 p q ihp ihq => exact (ihp hg.1 input).andThen hP fun a rest => (ihq hg.2 rest).map _
  | tuple3 p q s ihp ihq ihs =>
    exact (ihp hg.1 input).andThen hP fun a rest =>
      (ihq hg.2.1 rest).andThen hP fun b rest => (ihs hg.2.2 rest).map _
  -- a definition is known to be built from the same parts, and runs one level deeper
  | lazy name => exact hunfold name hg input
  | behind pointer p ih => exact ih hg input
  | probe label p ih =>
    intro s hs
    obtain ⟨r, hr, rfl⟩ := Option.map_eq_some_iff.mp hs
    exact hP.probed label (ih hg input r hr)

variable {body : (name : ν) → Grammar τ (τ name)}

theorem unfolding_holds (hP : parts.Keep P) (hbody : ∀ name, parts.definition name → (body name).BuiltFrom parts)
    (depth : Nat) (name : ν) (hname : parts.definition name) (input : Text) :
    Run.Holds P input (unfolding body depth name input) := by
  induction depth generalizing name input with
  | zero => exact fun _ h => nomatch h
  | succ depth ih =>
    intro s hs
    obtain ⟨r, hr, rfl⟩ := Option.map_eq_some_iff.mp hs
    exact hP.unfolded name (runWith_holds hP ih (hbody name hname) input r hr)

/-- What is kept holds of all that a grammar gives. -/
theorem BuiltFrom.holds {α : Type} {g : Grammar τ α} {input : Text} {r : Run ν α}
    (hg : g.BuiltFrom parts) (hbody : ∀ name, parts.definition name → (body name).BuiltFrom parts)
    (hP : parts.Keep P) (h : g.Gives body input r) : P input (r.outcome.map (·.2)) r.events := by
  obtain ⟨depth, hr⟩ := h
  exact runWith_holds hP (unfolding_holds hP hbody depth) hg input r hr

end Grammar

end PatternGrammar
