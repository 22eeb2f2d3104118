import PatternGrammar.Grammar.Run

/-!
# Runs and depths

A run that gives something at a depth gives the same at every larger depth, so what a grammar gives on a text is
determined by the two (`Grammar.Gives.unique`); a grammar ends on a text if it gives something at some depth.
-/

namespace PatternGrammar

namespace Run

variable {ν α β : Type}

/-! ## What a run in several steps gives -/

theorem andThen_eq_some {o : Option (Run ν α)} {next : α → Text → Option (Run ν β)} {s : Run ν β} :
    (o.bind fun r => r.andThen next) = some s ↔
      ∃ r, o = some r ∧
        (r.outcome = none ∧ s = ⟨none, r.events⟩ ∨
          ∃ a rest s', r.outcome = some (a, rest) ∧ next a rest = some s' ∧ s = s'.after r.events) := by
  simp only [Option.bind_eq_some_iff]
  refine exists_congr fun r => and_congr_right fun _ => ?_
  unfold andThen
  cases r.outcome with
  | none => simp [@eq_comm _ s]
  | some x =>
    obtain ⟨a, rest⟩ := x
    dsimp only
    rw [Option.map_eq_some_iff]
    constructor
    · rintro ⟨s', hs', rfl⟩
      exact .inr ⟨a, rest, s', rfl, hs', rfl⟩
    · rintro (⟨hnone, -⟩ | ⟨_, _, s', heq, hs', rfl⟩)
      · contradiction
      · cases heq
        exact ⟨s', hs', rfl⟩

theorem otherwise_eq_some {o : Option (Run ν α)} {event : Event ν} {next : Unit → Option (Run ν α)} {s : Run ν α} :
    (o.bind fun r => r.otherwise event next) = some s ↔
      ∃ r, o = some r ∧
        (r.outcome ≠ none ∧ s = r ∨
          r.outcome = none ∧ ∃ s', next () = some s' ∧ s = s'.after (r.events ++ [event])) := by
  simp only [Option.bind_eq_some_iff]
  refine exists_congr fun r => and_congr_right fun _ => ?_
  unfold otherwise
  cases r.outcome with
  | none => simp [Option.map_eq_some_iff, @eq_comm _ s]
  | some x => simp [@eq_comm _ s]

/-! ## Runs that give more -/

/-- What the one gives, the other gives too. -/
def Extends (o o' : Option (Run ν α)) : Prop :=
  ∀ r, o = some r → o' = some r

namespace Extends

variable {o o' : Option (Run ν α)}

theorem refl (o : Option (Run ν α)) : Extends o o :=
  fun _ h => h

theorem map (ho : Extends o o') (f : Run ν α → Run ν β) : Extends (o.map f) (o'.map f) := by
  intro s hs
  obtain ⟨r, hr, rfl⟩ := Option.map_eq_some_iff.mp hs
  rw [ho r hr]
  rfl

theorem andThen {next next' : α → Text → Option (Run ν β)} (ho : Extends o o')
    (hnext : ∀ a rest, Extends (next a rest) (next' a rest)) :
    Extends (o.bind fun r => r.andThen next) (o'.bind fun r => r.andThen next') := by
  intro s hs
  rw [andThen_eq_some] at hs ⊢
  obtain ⟨r, hr, hfails | ⟨a, rest, s', houtcome, hs', rfl⟩⟩ := hs
  · exact ⟨r, ho r hr, .inl hfails⟩
  · exact ⟨r, ho r hr, .inr ⟨a, rest, s', houtcome, hnext a rest s' hs', rfl⟩⟩

theorem otherwise {event : Event ν} {next next' : Unit → Option (Run ν α)} (ho : Extends o o')
    (hnext : Extends (next ()) (next' ())) :
    Extends (o.bind fun r => r.otherwise event next) (o'.bind fun r => r.otherwise event next') := by
  intro s hs
  rw [otherwise_eq_some] at hs ⊢
  obtain ⟨r, hr, hsucceeds | ⟨houtcome, s', hs', rfl⟩⟩ := hs
  · exact ⟨r, ho r hr, .inl hsucceeds⟩
  · exact ⟨r, ho r hr, .inr ⟨houtcome, s', hnext s' hs', rfl⟩⟩

theorem firstOf {n : Nat} {ps ps' : Fin n → Text → Option (Run ν α)} (input : Text) (index : Nat)
    (hps : ∀ i, Extends (ps i input) (ps' i input)) :
    Extends (Run.firstOf input index (List.ofFn ps)) (Run.firstOf input index (List.ofFn ps')) := by
  induction n generalizing index with
  | zero =>
    rw [List.ofFn_zero, List.ofFn_zero]
    exact refl _
  | succ n ih =>
    rw [List.ofFn_succ, List.ofFn_succ, Run.firstOf, Run.firstOf, List.length_ofFn, List.length_ofFn]
    exact (hps 0).otherwise (ih (index + 1) fun i => hps i.succ)

end Extends

/-- The run of a pattern succeeds where the pattern takes something out. -/
theorem outcome_ofPattern (p : Pattern) (i : Interpreter α) (input : Text) :
    (ofPattern p i input : Run ν α).outcome = (p.extract input).map fun x => (i.eval x, x.stripped) := by
  unfold ofPattern Pattern.extractNoting
  cases p.extract input <;> rfl

theorem ofPattern_of_some {p : Pattern} {input : Text} {x : Extraction} (hx : p.extract input = some x)
    (i : Interpreter α) : (ofPattern p i input : Run ν α) = .success (i.eval x) x.stripped := by
  simp only [ofPattern, Pattern.extractNoting, hx]
  rfl

theorem ofPattern_of_none {p : Pattern} {input : Text} (hx : p.extract input = none) (i : Interpreter α) :
    (ofPattern p i input : Run ν α) = ⟨none, [.noMatch p.text input]⟩ := by
  simp only [ofPattern, Pattern.extractNoting, hx]
  rfl

/-- A value is mapped without a change to the text left. -/
theorem left_map (f : α → β) (r : Run ν α) : (r.map f).outcome.map (·.2) = r.outcome.map (·.2) := by
  rw [map, Option.map_map]
  rfl

end Run

namespace Grammar

variable {ν : Type} {τ : ν → Type} {α : Type}

/-- A grammar gives more when its definitions do. -/
theorem runWith_extends {unfold unfold' : (name : ν) → Text → Option (Run ν (τ name))}
    (hunfold : ∀ name input, Run.Extends (unfold name input) (unfold' name input)) (g : Grammar τ α) (input : Text) :
    Run.Extends (g.runWith unfold input) (g.runWith unfold' input) := by
  induction g generalizing input with
  | regex p i => exact .refl _
  | fromFn f => exact .refl _
  | pure a => exact .refl _
  | map f p ih => exact (ih input).map _
  | replace p b ih => exact (ih input).map _
  | apply p q ihp ihq => exact (ihp input).andThen fun f rest => (ihq rest).map _
  | keepRight p q ihp ihq => exact (ihp input).andThen fun _ rest => ihq rest
  | keepLeft p q ihp ihq =>
    exact (ihp input).andThen fun a rest => (ihq rest).andThen fun _ _ => .refl _
  | orElse p q ihp ihq => exact (ihp input).otherwise (ihq input)
  | oneOf ps ih => exact .firstOf input 0 fun i => ih i input
  | tuple2 p q ihp ihq => exact (ihp input).andThen fun a rest => (ihq rest).map _
  | tuple3 p q s ihp ihq ihs =>
    exact (ihp input).andThen fun a rest => (ihq rest).andThen fun b rest => (ihs rest).map _
  | lazy name => exact hunfold name input
  | behind pointer p ih => exact ih input
  | probe label p ih => exact (ih input).map _

variable {body : (name : ν) → Grammar τ (τ name)}

theorem unfolding_extends (depth : Nat) (name : ν) (input : Text) :
    Run.Extends (unfolding body depth name input) (unfolding body (depth + 1) name input) := by
  induction depth generalizing name input with
  | zero => exact fun _ h => nomatch h
  -- the definition runs with definitions that are unfolded one deeper themselves
  | succ depth ih => exact (runWith_extends ih (body name) input).map _

/-- A greater depth changes nothing that has been given. -/
theorem runDepth_extends {depth depth' : Nat} (hle : depth ≤ depth') (g : Grammar τ α) (input : Text) :
    Run.Extends (g.runDepth body depth input) (g.runDepth body depth' input) := by
  induction hle with
  | refl => exact .refl _
  | step hle ih => exact fun r hr => runWith_extends (unfolding_extends _) g input r (ih r hr)

/-- What a grammar gives on a text when its definitions are unfolded as deep as it takes. -/
def Gives (body : (name : ν) → Grammar τ (τ name)) (g : Grammar τ α) (input : Text) (r : Run ν α) : Prop :=
  ∃ depth, g.runDepth body depth input = some r

/-- A grammar gives one thing at most. -/
theorem Gives.unique {g : Grammar τ α} {input : Text} {r r' : Run ν α} (h : g.Gives body input r)
    (h' : g.Gives body input r') : r = r' := by
  obtain ⟨depth, hr⟩ := h
  obtain ⟨depth', hr'⟩ := h'
  -- both are what is given at the larger depth
  have hmax := runDepth_extends (Nat.le_max_left depth depth') g input r hr
  have hmax' := runDepth_extends (Nat.le_max_right depth depth') g input r' hr'
  exact Option.some.inj (hmax.symm.trans hmax')

end Grammar

end PatternGrammar
