import PatternGrammar.Proofs.Grammar.Run

/-!
# Laws of grammars

A grammar may be rewritten by the laws of mapping, application, sequencing and choice, at any places in it and in its
definitions, without a change to what it gives: it ends on the same texts, with the same value, text left and events
(`Grammar.Congruent.same_runs`).
-/

namespace PatternGrammar

namespace Run

variable {ν α β γ : Type} {o : Option (Run ν α)}

/-! ## Putting runs together -/

/-- Events are put in front in the order in which they came. -/
theorem after_after (es es' : List (Event ν)) (r : Run ν α) : after es (after es' r) = after (es ++ es') r := by
  simp only [after, List.append_assoc]

theorem map_id (r : Run ν α) : r.map (fun a => a) = r := by
  show Run.mk (r.outcome.map fun x => x) r.events = r
  rw [Option.map_id_fun']
  rfl

theorem map_map (f : β → γ) (g : α → β) (r : Run ν α) : (r.map g).map f = r.map (fun a => f (g a)) := by
  simp only [map, Option.map_map, Function.comp_def]

theorem map_comp_map (f : β → γ) (g : α → β) : (map f ∘ map g : Run ν α → Run ν γ) = map fun a => f (g a) :=
  funext (map_map f g)

/-- A run that succeeds at once goes on with the next one alone. -/
theorem success_andThen (a : α) (input : Text) (next : α → Text → Option (Run ν β)) :
    ((some (success a input)).bind fun r => r.andThen next) = next a input := by
  show (next a input).map (after []) = next a input
  rw [show (after [] : Run ν β → Run ν β) = id from rfl, Option.map_id, id]

/-- A last step that only gives a value is a mapping. -/
theorem andThen_success (f : α → β) :
    (o.bind fun r => r.andThen fun a rest => some (success (f a) rest)) = o.map (map f) := by
  cases o with
  | none => rfl
  | some r =>
    obtain ⟨outcome, events⟩ := r
    cases outcome with
    | none => rfl
    | some x =>
      show some (after events (success (f x.1) x.2)) = some (map f ⟨some x, events⟩)
      rw [after, success, List.append_nil]
      rfl

/-- Runs in a row may be grouped in either way. -/
theorem andThen_andThen (next : α → Text → Option (Run ν β)) (next' : β → Text → Option (Run ν γ)) :
    ((o.bind fun r => r.andThen next).bind fun r => r.andThen next') =
      o.bind fun r => r.andThen fun a rest => (next a rest).bind fun r => r.andThen next' := by
  cases o with
  | none => rfl
  | some r =>
    obtain ⟨outcome, events⟩ := r
    cases outcome with
    | none => rfl
    | some x =>
      show ((next x.1 x.2).map (after events)).bind (fun r => r.andThen next') =
        ((next x.1 x.2).bind fun r => r.andThen next').map (after events)
      cases next x.1 x.2 with
      | none => rfl
      | some s =>
        obtain ⟨outcome', events'⟩ := s
        cases outcome' with
        | none => rfl
        | some y =>
          show (next' y.1 y.2).map (after (events ++ events')) =
            ((next' y.1 y.2).map (after events')).map (after events)
          rw [Option.map_map]
          congr 1
          funext s
          exact (after_after events events' s).symm

/-- A function on the value may be applied by what comes next. -/
theorem map_andThen (f : α → β) (next : β → Text → Option (Run ν γ)) :
    ((o.map (map f)).bind fun r => r.andThen next) = o.bind fun r => r.andThen fun a => next (f a) := by
  rw [← andThen_success, andThen_andThen]
  simp only [success_andThen]

/-- A function on the last value may be applied by the last run. -/
theorem andThen_map (next : α → Text → Option (Run ν β)) (f : β → γ) :
    (o.bind fun r => r.andThen next).map (map f) =
      o.bind fun r => r.andThen fun a rest => (next a rest).map (map f) := by
  rw [← andThen_success, andThen_andThen]
  simp only [andThen_success]

/-- Alternatives after the same failure are tried in order, however they are put together. -/
theorem otherwise_otherwise (event : Event ν) (next next' : Unit → Option (Run ν α)) :
    ((o.bind fun r => r.otherwise event next).bind fun r => r.otherwise event next') =
      o.bind fun r => r.otherwise event fun _ => (next ()).bind fun r => r.otherwise event next' := by
  cases o with
  | none => rfl
  | some r =>
    obtain ⟨outcome, events⟩ := r
    cases outcome with
    | some x => rfl
    | none =>
      show ((next ()).map (after (events ++ [event]))).bind (fun r => r.otherwise event next') =
        ((next ()).bind fun r => r.otherwise event next').map (after (events ++ [event]))
      cases next () with
      | none => rfl
      | some s =>
        obtain ⟨outcome', events'⟩ := s
        cases outcome' with
        | some y => rfl
        | none =>
          show (next' ()).map (after (events ++ [event] ++ events' ++ [event])) =
            ((next' ()).map (after (events' ++ [event]))).map (after (events ++ [event]))
          rw [Option.map_map]
          congr 1
          funext s
          show _ = after (events ++ [event]) (after (events' ++ [event]) s)
          rw [after_after, List.append_assoc]

/-- The value of a pattern is mapped by its interpreter as well as behind it. -/
theorem map_ofPattern (f : α → β) (p : Pattern) (i : Interpreter α) (input : Text) :
    (ofPattern p i input : Run ν α).map f = ofPattern p (i.map f) input := by
  unfold ofPattern Pattern.extractNoting
  cases p.extract input <;> rfl

end Run

namespace Grammar

variable {ν : Type} {τ : ν → Type}

/-! ## Laws -/

/-- A law says that two grammars are the same. -/
inductive Law : {α : Type} → Grammar τ α → Grammar τ α → Prop where
  | map_id {α : Type} (p : Grammar τ α) : Law (.map id p) p
  | map_map {α β γ : Type} (f : β → γ) (g : α → β) (p : Grammar τ α) :
    Law (.map f (.map g p)) (.map (f ∘ g) p)
  | value {α β : Type} (b : β) (p : Grammar τ α) : Law (.value b p) (.replace p b)
  | replace {α β : Type} (p : Grammar τ α) (b : β) : Law (.replace p b) (.map (fun _ => b) p)
  | map {α β : Type} (f : α → β) (p : Grammar τ α) : Law (.map f p) (.apply (.pure f) p)
  | pure_pure {α β : Type} (f : α → β) (a : α) : Law (.apply (.pure f) (.pure a)) (.pure (f a))
  | interchange {α β : Type} (u : Grammar τ (α → β)) (a : α) :
    Law (.apply u (.pure a)) (.apply (.pure fun h => h a) u)
  | composition {α β γ : Type} (u : Grammar τ (β → γ)) (v : Grammar τ (α → β)) (p : Grammar τ α) :
    Law (.apply (.apply (.apply (.pure fun f g a => f (g a)) u) v) p) (.apply u (.apply v p))
  | keepRight_keepRight {α β γ : Type} (p : Grammar τ α) (q : Grammar τ β) (s : Grammar τ γ) :
    Law (.keepRight p (.keepRight q s)) (.keepRight (.keepRight p q) s)
  | keepRight_keepLeft {α β γ : Type} (p : Grammar τ α) (q : Grammar τ β) (s : Grammar τ γ) :
    Law (.keepRight p (.keepLeft q s)) (.keepLeft (.keepRight p q) s)
  | keepRight {α β : Type} (p : Grammar τ α) (q : Grammar τ β) :
    Law (.keepRight p q) (.map Prod.snd (.tuple2 p q))
  | tuple3_right {α β γ : Type} (p : Grammar τ α) (q : Grammar τ β) (s : Grammar τ γ) :
    Law (.tuple3 p q s) (.tuple2 p (.tuple2 q s))
  | tuple3_left {α β γ : Type} (p : Grammar τ α) (q : Grammar τ β) (s : Grammar τ γ) :
    Law (.tuple3 p q s) (.map (fun ((a, b), c) => (a, b, c)) (.tuple2 (.tuple2 p q) s))
  | orElse_orElse {α : Type} (p q s : Grammar τ α) :
    Law (.orElse (.orElse p q) s) (.orElse p (.orElse q s))
  | orElse_pure {α : Type} (a : α) (q : Grammar τ α) : Law (.orElse (.pure a) q) (.pure a)
  | regex {α β : Type} (f : α → β) (p : Pattern) (i : Interpreter α) :
    Law (.map f (.regex p i)) (.regex p (i.map f))
  | behind {α : Type} (pointer : Pointer) (p : Grammar τ α) : Law (.behind pointer p) p

/-- The two sides of a law run alike over the same definitions. -/
theorem Law.runWith_eq {α : Type} {g g' : Grammar τ α} (h : g.Law g')
    (unfold : (name : ν) → Text → Option (Run ν (τ name))) (input : Text) :
    g.runWith unfold input = g'.runWith unfold input := by
  cases h with
  | map_id =>
    show (g'.runWith unfold input).map (Run.map fun a => a) = g'.runWith unfold input
    rw [funext Run.map_id, Option.map_id']
  | map_map f g p =>
    show ((p.runWith unfold input).map (Run.map g)).map (Run.map f) =
      (p.runWith unfold input).map (Run.map (f ∘ g))
    rw [Option.map_map, Run.map_comp_map]
    rfl
  | value b p => rfl
  | replace p b => rfl
  | map f p => simp only [runWith, Option.bind_eq_bind, Run.success_andThen]
  | pure_pure f a =>
    simp only [runWith, Option.bind_eq_bind, Run.success_andThen]
    rfl
  | interchange u a =>
    simp only [runWith, Option.bind_eq_bind, Run.success_andThen]
    exact Run.andThen_success _
  -- on both sides the functions are run first, and then what they are applied to
  | composition u v p =>
    simp only [runWith, Option.bind_eq_bind, Run.success_andThen, Run.map_andThen, Run.andThen_andThen,
      Run.andThen_map, Option.map_map, Run.map_comp_map]
  | keepRight_keepRight p q s => simp only [runWith, Option.bind_eq_bind, Run.andThen_andThen]
  | keepRight_keepLeft p q s => simp only [runWith, Option.bind_eq_bind, Run.andThen_andThen]
  | keepRight p q =>
    simp only [runWith, Option.bind_eq_bind, Run.andThen_map, Option.map_map, Run.map_comp_map, funext Run.map_id,
      Option.map_id']
  | tuple3_right p q s =>
    simp only [runWith, Option.bind_eq_bind, Run.andThen_map, Option.map_map, Run.map_comp_map]
  | tuple3_left p q s =>
    simp only [runWith, Option.bind_eq_bind, Run.andThen_map, Run.andThen_andThen, Run.map_andThen, Option.map_map,
      Run.map_comp_map]
  | orElse_orElse p q s => exact Run.otherwise_otherwise _ _ _
  | orElse_pure a q => rfl
  | regex f p i => exact congrArg some (Run.map_ofPattern f p i input)
  | behind pointer p => rfl

/-! ## Rewriting at any place -/

/-- Two grammars differ by laws, used in either direction at any places. -/
inductive Congruent : {α : Type} → Grammar τ α → Grammar τ α → Prop where
  | law {α : Type} {g g' : Grammar τ α} (h : g.Law g') : Congruent g g'
  | refl {α : Type} (g : Grammar τ α) : Congruent g g
  | symm {α : Type} {g g' : Grammar τ α} (h : Congruent g g') : Congruent g' g
  | trans {α : Type} {g g' g'' : Grammar τ α} (h : Congruent g g') (h' : Congruent g' g'') : Congruent g g''
  | map {α β : Type} (f : α → β) {p p' : Grammar τ α} (hp : Congruent p p') :
    Congruent (.map f p) (.map f p')
  | replace {α β : Type} {p p' : Grammar τ α} (hp : Congruent p p') (b : β) :
    Congruent (.replace p b) (.replace p' b)
  | apply {α β : Type} {p p' : Grammar τ (α → β)} {q q' : Grammar τ α} (hp : Congruent p p')
    (hq : Congruent q q') : Congruent (.apply p q) (.apply p' q')
  | keepRight {α β : Type} {p p' : Grammar τ α} {q q' : Grammar τ β} (hp : Congruent p p')
    (hq : Congruent q q') : Congruent (.keepRight p q) (.keepRight p' q')
  | keepLeft {α β : Type} {p p' : Grammar τ α} {q q' : Grammar τ β} (hp : Congruent p p')
    (hq : Congruent q q') : Congruent (.keepLeft p q) (.keepLeft p' q')
  | orElse {α : Type} {p p' q q' : Grammar τ α} (hp : Congruent p p') (hq : Congruent q q') :
    Congruent (.orElse p q) (.orElse p' q')
  | oneOf {α : Type} {n : Nat} {ps ps' : Fin n → Grammar τ α} (hps : ∀ i, Congruent (ps i) (ps' i)) :
    Congruent (.oneOf ps) (.oneOf ps')
  | tuple2 {α β : Type} {p p' : Grammar τ α} {q q' : Grammar τ β} (hp : Congruent p p')
    (hq : Congruent q q') : Congruent (.tuple2 p q) (.tuple2 p' q')
  | tuple3 {α β γ : Type} {p p' : Grammar τ α} {q q' : Grammar τ β} {s s' : Grammar τ γ}
    (hp : Congruent p p') (hq : Congruent q q') (hs : Congruent s s') :
    Congruent (.tuple3 p q s) (.tuple3 p' q' s')
  | behind {α : Type} (pointer : Pointer) {p p' : Grammar τ α} (hp : Congruent p p') :
    Congruent (.behind pointer p) (.behind pointer p')
  | probe {α : Type} (label : String) {p p' : Grammar τ α} (hp : Congruent p p') :
    Congruent (.probe label p) (.probe label p')

/-- Grammars that differ by laws run alike over the same definitions. -/
theorem Congruent.runWith_eq {α : Type} {g g' : Grammar τ α} (h : g.Congruent g')
    (unfold : (name : ν) → Text → Option (Run ν (τ name))) : g.runWith unfold = g'.runWith unfold := by
  induction h with
  | law h => exact funext (h.runWith_eq unfold)
  | refl g => rfl
  | symm _ ih => exact ih.symm
  | trans _ _ ih ih' => exact ih.trans ih'
  | map f _ ih =>
    funext input
    rw [runWith, runWith, ih]
  | replace _ b ih =>
    funext input
    rw [runWith, runWith, ih]
  | apply _ _ ihp ihq =>
    funext input
    rw [runWith, runWith, ihp, ihq]
  | keepRight _ _ ihp ihq =>
    funext input
    rw [runWith, runWith, ihp, ihq]
  | keepLeft _ _ ihp ihq =>
    funext input
    rw [runWith, runWith, ihp, ihq]
  | orElse _ _ ihp ihq =>
    funext input
    rw [runWith, runWith, ihp, ihq]
  | oneOf _ ih =>
    funext input
    simp only [runWith, ih]
  | tuple2 _ _ ihp ihq =>
    funext input
    rw [runWith, runWith, ihp, ihq]
  | tuple3 _ _ _ ihp ihq ihs =>
    funext input
    rw [runWith, runWith, ihp, ihq, ihs]
  | behind pointer _ ih =>
    funext input
    rw [runWith, runWith, ih]
  | probe label _ ih =>
    funext input
    rw [runWith, runWith, ih]

variable {body body' : (name : ν) → Grammar τ (τ name)}

/-- Definitions that differ by laws run alike, though both refer to definitions that differ. -/
theorem unfolding_eq (hbody : ∀ name, (body name).Congruent (body' name)) (depth : Nat) :
    unfolding body depth = unfolding body' depth := by
  induction depth with
  | zero => rfl
  | succ depth ih =>
    funext name input
    rw [unfolding, unfolding, (hbody name).runWith_eq, ih]

/-- Grammars and definitions that differ by laws give the same: they end on the same texts and at the same depths, and
then the outcome and the events are equal. -/
theorem Congruent.same_runs (hbody : ∀ name, (body name).Congruent (body' name)) {α : Type}
    {g g' : Grammar τ α} (h : g.Congruent g') (input : Text) :
    (∀ depth, g.runDepth body depth input = g'.runDepth body' depth input) ∧
      ∀ r, g.Gives body input r ↔ g'.Gives body' input r := by
  have hdepth (depth : Nat) : g.runDepth body depth input = g'.runDepth body' depth input := by
    rw [runDepth, runDepth, h.runWith_eq, unfolding_eq hbody]
  refine ⟨hdepth, fun r => ?_⟩
  simp only [Gives, hdepth]

/-- The number of characters, counted by a definition that is written in two ways. -/
theorem same_runs_count :
    ∃ (body body' : Unit → Grammar (fun _ : Unit => Nat) Nat) (r : Run Unit Nat),
      body () = .orElse (.map (· + 1) (.keepRight .anyChar (.lazy ()))) (.pure 0) ∧
        body' () = .orElse (.map ((· + 1) ∘ Prod.snd) (.tuple2 .anyChar (.behind .box (.lazy ())))) (.pure 0) ∧
        (Grammar.lazy ()).Gives body' ['a', 'b'] r ∧ r.outcome = some (2, []) ∧
        (Grammar.lazy ()).Gives body ['a', 'b'] r := by
  let body : Unit → Grammar (fun _ : Unit => Nat) Nat := fun _ =>
    .orElse (.map (· + 1) (.keepRight .anyChar (.lazy ()))) (.pure 0)
  let body' : Unit → Grammar (fun _ : Unit => Nat) Nat := fun _ =>
    .orElse (.map ((· + 1) ∘ Prod.snd) (.tuple2 .anyChar (.behind .box (.lazy ())))) (.pure 0)
  have hbody (name : Unit) : (body name).Congruent (body' name) := by
    refine .orElse (.trans (.map _ ?_) (.law (.map_map _ _ _))) (.refl _)
    exact .trans (.law (.keepRight _ _)) (.map _ (.tuple2 (.refl _) (.symm (.law (.behind .box _)))))
  obtain ⟨r, hrun, houtcome⟩ : ∃ r, (Grammar.lazy ()).Gives body' ['a', 'b'] r ∧
      r.outcome = some (2, []) := ⟨_, ⟨3, rfl⟩, rfl⟩
  have hsame := (Congruent.same_runs hbody (.refl (Grammar.lazy ())) ['a', 'b']).2 r
  exact ⟨body, body', r, rfl, rfl, hrun, houtcome, hsame.mpr hrun⟩

end Grammar

end PatternGrammar
