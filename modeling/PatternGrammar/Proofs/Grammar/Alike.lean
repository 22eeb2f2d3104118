import PatternGrammar.Proofs.Grammar.Run

/-!
# Values never decide

No parser looks at a value to decide whether it succeeds, what text it leaves or which events it notes. Two grammars of
one shape with other values in them, and even with values of other types, run alike (`Grammar.Alike.runs_alike`).
-/

namespace PatternGrammar

namespace Run

variable {ν α β γ δ : Type}

/-- Two runs differ in the value at most. -/
def Alike (r : Run ν α) (r' : Run ν β) : Prop :=
  r.outcome.map (·.2) = r'.outcome.map (·.2) ∧ r.events = r'.events

/-- Two runs that are alike both fail, or both succeed and leave the same text. -/
theorem Alike.outcome_cases {r : Run ν α} {r' : Run ν β} (h : r.Alike r') :
    r.outcome = none ∧ r'.outcome = none ∨
      ∃ a b rest, r.outcome = some (a, rest) ∧ r'.outcome = some (b, rest) := by
  obtain ⟨houtcome, -⟩ := h
  cases hr : r.outcome with
  | none =>
    rw [hr, Option.map_none, eq_comm, Option.map_eq_none_iff] at houtcome
    exact .inl ⟨rfl, houtcome⟩
  | some x =>
    rw [hr, Option.map_some, eq_comm, Option.map_eq_some_iff] at houtcome
    obtain ⟨⟨b, rest⟩, hr', hrest⟩ := houtcome
    obtain rfl : rest = x.2 := hrest
    exact .inr ⟨x.1, b, x.2, rfl, hr'⟩

theorem Alike.map {r : Run ν α} {r' : Run ν β} (h : r.Alike r') (f : α → γ) (f' : β → δ) :
    (r.map f).Alike (r'.map f') := by
  refine ⟨?_, h.2⟩
  have houtcome := h.1
  simp only [Run.map, Option.map_map]
  exact houtcome

theorem Alike.after {r : Run ν α} {r' : Run ν β} (h : r.Alike r') (events : List (Event ν)) :
    (r.after events).Alike (r'.after events) := by
  refine ⟨h.1, ?_⟩
  rw [Run.after, Run.after, h.2]

/-- Two runs give nothing, or are alike. -/
def BothAlike (o : Option (Run ν α)) (o' : Option (Run ν β)) : Prop :=
  Option.Rel Alike o o'

namespace BothAlike

variable {o : Option (Run ν α)} {o' : Option (Run ν β)}

theorem exists_right {r : Run ν α} (ho : BothAlike o o') (hr : o = some r) : ∃ r', o' = some r' ∧ r.Alike r' := by
  cases ho with
  | none => contradiction
  | @some s s' hs => exact ⟨s', rfl, Option.some.inj hr ▸ hs⟩

theorem exists_left {r' : Run ν β} (ho : BothAlike o o') (hr' : o' = some r') : ∃ r, o = some r ∧ r.Alike r' := by
  cases ho with
  | none => contradiction
  | @some s s' hs => exact ⟨s, rfl, Option.some.inj hr' ▸ hs⟩

theorem map {f : Run ν α → Run ν γ} {f' : Run ν β → Run ν δ} (ho : BothAlike o o')
    (hf : ∀ r r', r.Alike r' → (f r).Alike (f' r')) : BothAlike (o.map f) (o'.map f') := by
  cases ho with
  | none => exact .none
  | some hr => exact .some (hf _ _ hr)

/-- Runs that are alike stay so when they go on alike behind every value and text. -/
theorem andThen {next : α → Text → Option (Run ν γ)} {next' : β → Text → Option (Run ν δ)}
    (ho : BothAlike o o') (hnext : ∀ a b rest, BothAlike (next a rest) (next' b rest)) :
    BothAlike (o.bind fun r => r.andThen next) (o'.bind fun r => r.andThen next') := by
  cases ho with
  | none => exact .none
  | @some r r' hr =>
    simp only [Option.bind_some, Run.andThen]
    obtain ⟨hnone, hnone'⟩ | ⟨a, b, rest, hsome, hsome'⟩ := hr.outcome_cases
    · rw [hnone, hnone']
      exact .some ⟨rfl, hr.2⟩
    · rw [hsome, hsome', hr.2]
      exact (hnext a b rest).map fun _ _ halike => halike.after _

/-- Runs that are alike fail together, and go on with the same event. -/
theorem otherwise {event : Event ν} {next : Unit → Option (Run ν α)} {next' : Unit → Option (Run ν β)}
    (ho : BothAlike o o') (hnext : BothAlike (next ()) (next' ())) :
    BothAlike (o.bind fun r => r.otherwise event next) (o'.bind fun r => r.otherwise event next') := by
  cases ho with
  | none => exact .none
  | @some r r' hr =>
    simp only [Option.bind_some, Run.otherwise]
    obtain ⟨hnone, hnone'⟩ | ⟨a, b, rest, hsome, hsome'⟩ := hr.outcome_cases
    · rw [hnone, hnone', hr.2]
      exact hnext.map fun _ _ halike => halike.after _
    · rw [hsome, hsome']
      exact .some hr

/-- Alternatives that are alike one by one are tried alike. -/
theorem firstOf {n : Nat} {ps : Fin n → Text → Option (Run ν α)} {ps' : Fin n → Text → Option (Run ν β)}
    (input : Text) (index : Nat) (hps : ∀ i, BothAlike (ps i input) (ps' i input)) :
    BothAlike (Run.firstOf input index (List.ofFn ps)) (Run.firstOf input index (List.ofFn ps')) := by
  induction n generalizing index with
  | zero =>
    rw [List.ofFn_zero, List.ofFn_zero]
    exact .some ⟨rfl, rfl⟩
  | succ n ih =>
    rw [List.ofFn_succ, List.ofFn_succ, Run.firstOf, Run.firstOf, List.length_ofFn, List.length_ofFn]
    exact (hps 0).otherwise (ih (index + 1) fun i => hps i.succ)

end BothAlike

end Run

namespace Grammar

variable {ν : Type} {τ τ' : ν → Type}

/-- Two grammars have one shape and the same patterns. Interpreters, functions and fixed values may differ, and
functions that parse may differ in the values they give. -/
inductive Alike : {α β : Type} → Grammar τ α → Grammar τ' β → Prop where
  | regex {α β : Type} (p : Pattern) (i : Interpreter α) (i' : Interpreter β) :
    Alike (.regex p i) (.regex p i')
  | fromFn {α β : Type} {f : Text → Option (α × Text)} {f' : Text → Option (β × Text)}
    (hf : ∀ text, (f text).map (·.2) = (f' text).map (·.2)) : Alike (.fromFn f) (.fromFn f')
  | pure {α β : Type} (a : α) (b : β) : Alike (.pure a) (.pure b)
  | map {α β γ δ : Type} {p : Grammar τ α} {p' : Grammar τ' β} (f : α → γ) (f' : β → δ)
    (hp : Alike p p') : Alike (.map f p) (.map f' p')
  | replace {α β γ δ : Type} {p : Grammar τ α} {p' : Grammar τ' β} (c : γ) (d : δ)
    (hp : Alike p p') : Alike (.replace p c) (.replace p' d)
  | apply {α β γ δ : Type} {p : Grammar τ (α → β)} {p' : Grammar τ' (γ → δ)} {q : Grammar τ α}
    {q' : Grammar τ' γ} (hp : Alike p p') (hq : Alike q q') : Alike (.apply p q) (.apply p' q')
  | keepRight {α β γ δ : Type} {p : Grammar τ α} {p' : Grammar τ' γ} {q : Grammar τ β}
    {q' : Grammar τ' δ} (hp : Alike p p') (hq : Alike q q') : Alike (.keepRight p q) (.keepRight p' q')
  | keepLeft {α β γ δ : Type} {p : Grammar τ α} {p' : Grammar τ' γ} {q : Grammar τ β}
    {q' : Grammar τ' δ} (hp : Alike p p') (hq : Alike q q') : Alike (.keepLeft p q) (.keepLeft p' q')
  | orElse {α β : Type} {p q : Grammar τ α} {p' q' : Grammar τ' β} (hp : Alike p p')
    (hq : Alike q q') : Alike (.orElse p q) (.orElse p' q')
  | oneOf {α β : Type} {n : Nat} {ps : Fin n → Grammar τ α} {ps' : Fin n → Grammar τ' β}
    (hps : ∀ i, Alike (ps i) (ps' i)) : Alike (.oneOf ps) (.oneOf ps')
  | tuple2 {α β γ δ : Type} {p : Grammar τ α} {p' : Grammar τ' γ} {q : Grammar τ β}
    {q' : Grammar τ' δ} (hp : Alike p p') (hq : Alike q q') : Alike (.tuple2 p q) (.tuple2 p' q')
  | tuple3 {α β γ δ ε ζ : Type} {p : Grammar τ α} {p' : Grammar τ' γ} {q : Grammar τ β}
    {q' : Grammar τ' δ} {s : Grammar τ ε} {s' : Grammar τ' ζ} (hp : Alike p p') (hq : Alike q q')
    (hs : Alike s s') : Alike (.tuple3 p q s) (.tuple3 p' q' s')
  | lazy (name : ν) : Alike (.lazy name) (.lazy name)
  | behind {α β : Type} {p : Grammar τ α} {p' : Grammar τ' β} (pointer : Pointer) (hp : Alike p p') :
    Alike (.behind pointer p) (.behind pointer p')
  | probe {α β : Type} {p : Grammar τ α} {p' : Grammar τ' β} (label : String) (hp : Alike p p') :
    Alike (.probe label p) (.probe label p')

/-- The interpreter of a pattern changes the value only. -/
theorem alike_ofPattern {α β : Type} (p : Pattern) (i : Interpreter α) (i' : Interpreter β)
    (input : Text) : (Run.ofPattern p i input : Run ν α).Alike (Run.ofPattern p i' input : Run ν β) := by
  unfold Run.ofPattern
  cases p.extractNoting (ν := ν) input with
  | mk extraction events => cases extraction <;> exact ⟨rfl, rfl⟩

/-- Grammars of one shape run alike where their definitions do. -/
theorem runWith_alike {unfold : (name : ν) → Text → Option (Run ν (τ name))}
    {unfold' : (name : ν) → Text → Option (Run ν (τ' name))}
    (hunfold : ∀ name input, Run.BothAlike (unfold name input) (unfold' name input)) {α β : Type}
    {g : Grammar τ α} {g' : Grammar τ' β} (h : g.Alike g') (input : Text) :
    Run.BothAlike (g.runWith unfold input) (g'.runWith unfold' input) := by
  induction h generalizing input with
  | regex p i i' => exact .some (alike_ofPattern p i i' input)
  | fromFn hf => exact .some ⟨hf input, rfl⟩
  | pure a b => exact .some ⟨rfl, rfl⟩
  | map f f' hp ih => exact (ih input).map fun _ _ halike => halike.map f f'
  | replace c d hp ih => exact (ih input).map fun _ _ halike => halike.map _ _
  | apply hp hq ihp ihq =>
    exact (ihp input).andThen fun f f' rest => (ihq rest).map fun _ _ halike => halike.map f f'
  | keepRight hp hq ihp ihq => exact (ihp input).andThen fun _ _ rest => ihq rest
  | keepLeft hp hq ihp ihq =>
    exact (ihp input).andThen fun a b rest => (ihq rest).andThen fun _ _ _ => .some ⟨rfl, rfl⟩
  | orElse hp hq ihp ihq => exact (ihp input).otherwise (ihq input)
  | oneOf hps ih => exact .firstOf input 0 fun i => ih i input
  | tuple2 hp hq ihp ihq =>
    exact (ihp input).andThen fun a b rest => (ihq rest).map fun _ _ halike => halike.map _ _
  | tuple3 hp hq hs ihp ihq ihs =>
    exact (ihp input).andThen fun _ _ rest => (ihq rest).andThen fun _ _ rest =>
      (ihs rest).map fun _ _ halike => halike.map _ _
  -- no value is left to compare: the definitions of a name may have values of two types
  | lazy name => exact hunfold name input
  | behind pointer hp ih => exact ih input
  | probe label hp ih => exact (ih input).map fun _ _ halike => halike.after _

variable {body : (name : ν) → Grammar τ (τ name)} {body' : (name : ν) → Grammar τ' (τ' name)}

/-- Definitions that are alike unfold alike, by induction on the depth. -/
theorem unfolding_alike (hbody : ∀ name, (body name).Alike (body' name)) (depth : Nat) (name : ν)
    (input : Text) : Run.BothAlike (unfolding body depth name input) (unfolding body' depth name input) := by
  induction depth generalizing name input with
  | zero => exact .none
  | succ depth ih => exact (runWith_alike ih (hbody name) input).map fun _ _ halike => halike.after _

/-- Grammars that are alike run alike to every depth, by induction on the grammar. -/
theorem runDepth_alike (hbody : ∀ name, (body name).Alike (body' name)) {α β : Type}
    {g : Grammar τ α} {g' : Grammar τ' β} (h : g.Alike g') (depth : Nat) (input : Text) :
    Run.BothAlike (g.runDepth body depth input) (g'.runDepth body' depth input) :=
  runWith_alike (unfolding_alike hbody depth) h input

/-- Grammars of one shape over definitions of one shape end on the same texts, and when they do, both fail or both
succeed, with the same text left and the same events. -/
theorem Alike.runs_alike (hbody : ∀ name, (body name).Alike (body' name)) {α β : Type}
    {g : Grammar τ α} {g' : Grammar τ' β} (h : g.Alike g') (input : Text) :
    ((∃ r, g.Gives body input r) ↔ ∃ r', g'.Gives body' input r') ∧
      ∀ r r', g.Gives body input r → g'.Gives body' input r' →
        (r.outcome = none ↔ r'.outcome = none) ∧
          r.outcome.map (·.2) = r'.outcome.map (·.2) ∧ r.events = r'.events := by
  have hrel := runDepth_alike hbody h
  refine ⟨⟨fun ⟨r, depth, hr⟩ => ?_, fun ⟨r', depth, hr'⟩ => ?_⟩, fun r r' ⟨depth, hr⟩ hr' => ?_⟩
  · obtain ⟨r', hr', -⟩ := (hrel depth input).exists_right hr
    exact ⟨r', depth, hr'⟩
  · obtain ⟨r, hr, -⟩ := (hrel depth input).exists_left hr'
    exact ⟨r, depth, hr⟩
  · obtain ⟨s, hs, halike⟩ := (hrel depth input).exists_right hr
    obtain rfl := hr'.unique ⟨depth, hs⟩
    refine ⟨?_, halike.1, halike.2⟩
    obtain ⟨hnone, hnone'⟩ | ⟨a, b, rest, hsome, hsome'⟩ := halike.outcome_cases
    · simp only [hnone, hnone']
    · simp only [hsome, hsome', Option.some_ne_none]

/-- Counting characters and telling whether their number is even. -/
theorem runs_alike_count_even :
    ∃ (body : Unit → Grammar (fun _ : Unit => Nat) Nat) (body' : Unit → Grammar (fun _ : Unit => Bool) Bool),
      ∃ r r', (Grammar.lazy ()).Gives body ['a'] r ∧ (Grammar.lazy ()).Gives body' ['a'] r' ∧
        r.outcome = some (1, []) ∧ r'.outcome = some (false, []) ∧ r.events = r'.events := by
  let body : Unit → Grammar (fun _ : Unit => Nat) Nat := fun _ =>
    .orElse (.map (· + 1) (.keepRight .anyChar (.lazy ()))) (.pure 0)
  let body' : Unit → Grammar (fun _ : Unit => Bool) Bool := fun _ =>
    .orElse (.map not (.keepRight .anyChar (.lazy ()))) (.pure true)
  have hbody (name : Unit) : (body name).Alike (body' name) :=
    .orElse (.map _ _ (.keepRight (.fromFn fun _ => rfl) (.lazy ()))) (.pure 0 true)
  have hrun : (Grammar.lazy ()).Gives body ['a']
      ⟨some (1, []), [.unfolded (), .unfolded (), .firstAlternativeFailed []]⟩ := ⟨2, rfl⟩
  have hrun' : (Grammar.lazy ()).Gives body' ['a']
      ⟨some (false, []), [.unfolded (), .unfolded (), .firstAlternativeFailed []]⟩ := ⟨2, rfl⟩
  obtain ⟨-, -, hevents⟩ := (Alike.runs_alike hbody (.lazy ()) ['a']).2 _ _ hrun hrun'
  exact ⟨body, body', _, _, hrun, hrun', rfl, rfl, hevents⟩

end Grammar

end PatternGrammar
