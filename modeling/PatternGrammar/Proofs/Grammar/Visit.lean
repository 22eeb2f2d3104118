import PatternGrammar.Proofs.Grammar.Run

/-!
# Who is run on what

While a grammar runs on a text it runs other parsers on other texts: a sequence runs its second step on what the first
one left, a choice runs an alternative where those before it failed, and a name runs its definition. Every event of a
run is noted by a parser that is run like this (`Grammar.Gives.exists_visit`).
-/

namespace PatternGrammar

namespace Run

variable {ν α β : Type} {o : Option (Run ν α)} {e : Event ν}

/-- An event of a run with another one behind it is one of the two runs. -/
theorem mem_events_andThen {next : α → Text → Option (Run ν β)} {s : Run ν β}
    (hs : (o.bind fun r => r.andThen next) = some s) (he : e ∈ s.events) :
    (∃ r, o = some r ∧ e ∈ r.events) ∨
      ∃ r a rest s', o = some r ∧ r.outcome = some (a, rest) ∧ next a rest = some s' ∧ e ∈ s'.events := by
  obtain ⟨r, hr, ⟨-, rfl⟩ | ⟨a, rest, s', houtcome, hs', rfl⟩⟩ := andThen_eq_some.mp hs
  · exact .inl ⟨r, hr, he⟩
  · rcases List.mem_append.mp he with he | he
    · exact .inl ⟨r, hr, he⟩
    · exact .inr ⟨r, a, rest, s', hr, houtcome, hs', he⟩

theorem mem_events_otherwise {event : Event ν} {next : Unit → Option (Run ν α)} {s : Run ν α}
    (hs : (o.bind fun r => r.otherwise event next) = some s) (he : e ∈ s.events) :
    (∃ r, o = some r ∧ e ∈ r.events) ∨
      ∃ r, o = some r ∧ r.outcome = none ∧ (e = event ∨ ∃ s', next () = some s' ∧ e ∈ s'.events) := by
  obtain ⟨r, hr, ⟨-, rfl⟩ | ⟨houtcome, s', hs', rfl⟩⟩ := otherwise_eq_some.mp hs
  · exact .inl ⟨s, hr, he⟩
  · rcases List.mem_append.mp he with he | he
    · rcases List.mem_append.mp he with he | he
      · exact .inl ⟨r, hr, he⟩
      · exact .inr ⟨r, hr, houtcome, .inl (List.mem_singleton.mp he)⟩
    · exact .inr ⟨r, hr, houtcome, .inr ⟨s', hs', he⟩⟩

/-- An event of a choice comes from an alternative, or says that it failed, and those before it did. -/
theorem mem_events_firstOf {n : Nat} {ps : Fin n → Text → Option (Run ν α)} {input : Text}
    {index : Nat} {s : Run ν α} (hs : firstOf input index (List.ofFn ps) = some s) (he : e ∈ s.events) :
    ∃ i, (∀ j < i, ∃ r, ps j input = some r ∧ r.outcome = none) ∧
      ((∃ r, ps i input = some r ∧ e ∈ r.events) ∨
        ∃ remaining, e = .alternativeFailed (index + i) remaining ∧ i + remaining + 1 = n) := by
  induction n generalizing index s with
  | zero =>
    rw [List.ofFn_zero] at hs
    obtain rfl := Option.some.inj hs
    exact absurd he List.not_mem_nil
  | succ n ih =>
    rw [List.ofFn_succ, firstOf, List.length_ofFn] at hs
    -- nothing stands before the first alternative
    have hbefore (j : Fin (n + 1)) (hj : j < 0) : ∃ r, ps j input = some r ∧ r.outcome = none :=
      absurd hj (Fin.not_lt_zero j)
    rcases mem_events_otherwise hs he with ⟨r, hr, he⟩ | ⟨r, hr, houtcome, rfl | ⟨s', hs', he⟩⟩
    · exact ⟨0, hbefore, .inl ⟨r, hr, he⟩⟩
    · exact ⟨0, hbefore, .inr ⟨n, rfl, by simp⟩⟩
    · obtain ⟨i, hfails, hi⟩ := ih hs' he
      refine ⟨i.succ, fun j hj => ?_, hi.imp_right ?_⟩
      · cases j using Fin.cases with
        | zero => exact ⟨r, hr, houtcome⟩
        | succ j => exact hfails j (Fin.succ_lt_succ_iff.mp hj)
      · rintro ⟨remaining, rfl, hremaining⟩
        refine ⟨remaining, ?_, ?_⟩
        · rw [Fin.val_succ, Nat.add_assoc, Nat.add_comm 1]
        · rw [Fin.val_succ]
          omega

end Run

namespace Grammar

variable {ν : Type} {τ : ν → Type} (body : (name : ν) → Grammar τ (τ name))

/-- A parser ends on a text and leaves another one. -/
def Leaves {α : Type} (p : Grammar τ α) (input rest : Text) : Prop :=
  ∃ r a, p.Gives body input r ∧ r.outcome = some (a, rest)

/-- A parser ends on a text without success. -/
def Fails {α : Type} (p : Grammar τ α) (input : Text) : Prop :=
  ∃ r, p.Gives body input r ∧ r.outcome = none

/-- A parser on a text runs another one on some text itself. -/
inductive Calls : {α β : Type} → Grammar τ α → Text → Grammar τ β → Text → Prop where
  | map {α β : Type} {f : α → β} {p : Grammar τ α} {input : Text} : Calls (.map f p) input p input
  | replace {α β : Type} {p : Grammar τ α} {b : β} {input : Text} : Calls (.replace p b) input p input
  | applyLeft {α β : Type} {p : Grammar τ (α → β)} {q : Grammar τ α} {input : Text} :
    Calls (.apply p q) input p input
  | applyRight {α β : Type} {p : Grammar τ (α → β)} {q : Grammar τ α} {input rest : Text}
    (hp : p.Leaves body input rest) : Calls (.apply p q) input q rest
  | keepRightLeft {α β : Type} {p : Grammar τ α} {q : Grammar τ β} {input : Text} :
    Calls (.keepRight p q) input p input
  | keepRightRight {α β : Type} {p : Grammar τ α} {q : Grammar τ β} {input rest : Text}
    (hp : p.Leaves body input rest) : Calls (.keepRight p q) input q rest
  | keepLeftLeft {α β : Type} {p : Grammar τ α} {q : Grammar τ β} {input : Text} :
    Calls (.keepLeft p q) input p input
  | keepLeftRight {α β : Type} {p : Grammar τ α} {q : Grammar τ β} {input rest : Text}
    (hp : p.Leaves body input rest) : Calls (.keepLeft p q) input q rest
  | orElseFirst {α : Type} {p q : Grammar τ α} {input : Text} : Calls (.orElse p q) input p input
  | orElseSecond {α : Type} {p q : Grammar τ α} {input : Text} (hp : p.Fails body input) :
    Calls (.orElse p q) input q input
  | oneOf {α : Type} {n : Nat} {ps : Fin n → Grammar τ α} {input : Text} (i : Fin n)
    (hbefore : ∀ j < i, (ps j).Fails body input) : Calls (.oneOf ps) input (ps i) input
  | tuple2Left {α β : Type} {p : Grammar τ α} {q : Grammar τ β} {input : Text} :
    Calls (.tuple2 p q) input p input
  | tuple2Right {α β : Type} {p : Grammar τ α} {q : Grammar τ β} {input rest : Text}
    (hp : p.Leaves body input rest) : Calls (.tuple2 p q) input q rest
  | tuple3Left {α β γ : Type} {p : Grammar τ α} {q : Grammar τ β} {s : Grammar τ γ} {input : Text} :
    Calls (.tuple3 p q s) input p input
  | tuple3Middle {α β γ : Type} {p : Grammar τ α} {q : Grammar τ β} {s : Grammar τ γ} {input rest : Text}
    (hp : p.Leaves body input rest) : Calls (.tuple3 p q s) input q rest
  | tuple3Right {α β γ : Type} {p : Grammar τ α} {q : Grammar τ β} {s : Grammar τ γ} {input rest rest' : Text}
    (hp : p.Leaves body input rest) (hq : q.Leaves body rest rest') :
    Calls (.tuple3 p q s) input s rest'
  | lazy {name : ν} {input : Text} : Calls (.lazy name) input (body name) input
  | behind {α : Type} {pointer : Pointer} {p : Grammar τ α} {input : Text} :
    Calls (.behind pointer p) input p input
  | probe {α : Type} {label : String} {p : Grammar τ α} {input : Text} :
    Calls (.probe label p) input p input

/-- A parser is run on some text while another one runs. -/
inductive Visits : {α β : Type} → Grammar τ α → Text → Grammar τ β → Text → Prop where
  | self {α : Type} (g : Grammar τ α) (input : Text) : Visits g input g input
  | call {α β γ : Type} {g : Grammar τ α} {g' : Grammar τ β} {g'' : Grammar τ γ}
    {input text text' : Text} (hcall : Calls body g input g' text) (hvisit : Visits g' text g'' text') :
    Visits g input g'' text'

/-- What a parser notes itself when it is run on a text. -/
def Notes : {α : Type} → Grammar τ α → Text → Event ν → Prop
  | _, regex p _, input, .noMatch pattern query => pattern = p.text ∧ query = input
  | _, orElse _ _, input, .firstAlternativeFailed text => text = input
  | _, @oneOf _ _ _ n _, _, .alternativeFailed index remaining => index + remaining + 1 = n
  | _, lazy name, _, .unfolded name' => name' = name
  | _, probe label _, input, .probed label' text => label' = label ∧ text = input
  | _, _, _, _ => False

/-- An event is noted by some parser that is run. -/
def Sees {α : Type} (g : Grammar τ α) (input : Text) (e : Event ν) : Prop :=
  ∃ (β : Type) (g' : Grammar τ β) (text : Text), Visits body g input g' text ∧ g'.Notes text e

variable {body} {e : Event ν}

theorem Sees.self {α : Type} {g : Grammar τ α} {input : Text} (h : g.Notes input e) : g.Sees body input e :=
  ⟨α, g, input, .self g input, h⟩

theorem Sees.call {α β : Type} {g : Grammar τ α} {g' : Grammar τ β} {input text : Text}
    (hcall : Calls body g input g' text) (h : g'.Sees body text e) : g.Sees body input e := by
  obtain ⟨γ, g'', text', hvisit, hnotes⟩ := h
  exact ⟨γ, g'', text', .call hcall hvisit, hnotes⟩

/-- A pattern notes only that it does not occur. -/
theorem sees_of_ofPattern {α : Type} {p : Pattern} {i : Interpreter α} {input : Text}
    (he : e ∈ (Run.ofPattern p i input).events) : (Grammar.regex (τ := τ) p i).Sees body input e := by
  unfold Run.ofPattern Pattern.extractNoting at he
  cases hx : p.extract input with
  | some x =>
    rw [hx] at he
    exact absurd he List.not_mem_nil
  | none =>
    rw [hx] at he
    obtain rfl := List.mem_singleton.mp he
    exact .self ⟨rfl, rfl⟩

/-- An event of a run is noted by a parser that is run, if that is so of the definitions. -/
theorem sees_of_runWith {depth : Nat}
    (hunfold : ∀ name input r, unfolding body depth name input = some r → e ∈ r.events →
      (Grammar.lazy name).Sees body input e)
    {α : Type} {g : Grammar τ α} {input : Text} {r : Run ν α}
    (hr : g.runWith (unfolding body depth) input = some r) (he : e ∈ r.events) : g.Sees body input e := by
  -- what a step leaves or that it fails is known from its run at this depth
  have hleaves {α : Type} {p : Grammar τ α} {input rest : Text} {r : Run ν α} {a : α}
      (hr : p.runWith (unfolding body depth) input = some r) (houtcome : r.outcome = some (a, rest)) :
      p.Leaves body input rest := ⟨r, a, ⟨depth, hr⟩, houtcome⟩
  have hfails {α : Type} {p : Grammar τ α} {input : Text} {r : Run ν α}
      (hr : p.runWith (unfolding body depth) input = some r) (houtcome : r.outcome = none) :
      p.Fails body input := ⟨r, ⟨depth, hr⟩, houtcome⟩
  induction g generalizing input with
  | regex p i =>
    obtain rfl := Option.some.inj hr
    exact sees_of_ofPattern he
  | fromFn f =>
    obtain rfl := Option.some.inj hr
    exact absurd he List.not_mem_nil
  | pure a =>
    obtain rfl := Option.some.inj hr
    exact absurd he List.not_mem_nil
  | map f p ih =>
    obtain ⟨s, hs, rfl⟩ := Option.map_eq_some_iff.mp hr
    exact .call .map (ih hs he)
  | replace p b ih =>
    obtain ⟨s, hs, rfl⟩ := Option.map_eq_some_iff.mp hr
    exact .call .replace (ih hs he)
  | apply p q ihp ihq =>
    rcases Run.mem_events_andThen hr he with ⟨s, hs, he⟩ | ⟨s, f, rest, t, hs, houtcome, ht, he⟩
    · exact .call .applyLeft (ihp hs he)
    · obtain ⟨u, hu, rfl⟩ := Option.map_eq_some_iff.mp ht
      exact .call (.applyRight (hleaves hs houtcome)) (ihq hu he)
  | keepRight p q ihp ihq =>
    rcases Run.mem_events_andThen hr he with ⟨s, hs, he⟩ | ⟨s, a, rest, t, hs, houtcome, ht, he⟩
    · exact .call .keepRightLeft (ihp hs he)
    · exact .call (.keepRightRight (hleaves hs houtcome)) (ihq ht he)
  | keepLeft p q ihp ihq =>
    rcases Run.mem_events_andThen hr he with ⟨s, hs, he⟩ | ⟨s, a, rest, t, hs, houtcome, ht, he⟩
    · exact .call .keepLeftLeft (ihp hs he)
    -- going back to the text that the first one left notes nothing
    · rcases Run.mem_events_andThen ht he with ⟨u, hu, he⟩ | ⟨u, b, rest', v, hu, -, hv, he⟩
      · exact .call (.keepLeftRight (hleaves hs houtcome)) (ihq hu he)
      · obtain rfl := Option.some.inj hv
        exact absurd he List.not_mem_nil
  | orElse p q ihp ihq =>
    rcases Run.mem_events_otherwise hr he with ⟨s, hs, he⟩ | ⟨s, hs, houtcome, rfl | ⟨t, ht, he⟩⟩
    · exact .call .orElseFirst (ihp hs he)
    · exact .self rfl
    · exact .call (.orElseSecond (hfails hs houtcome)) (ihq ht he)
  | oneOf ps ih =>
    obtain ⟨i, hbefore, ⟨s, hs, he⟩ | ⟨remaining, rfl, hn⟩⟩ := Run.mem_events_firstOf hr he
    · refine .call (.oneOf i fun j hj => ?_) (ih i hs he)
      obtain ⟨t, ht, houtcome⟩ := hbefore j hj
      exact hfails ht houtcome
    · exact .self (by rw [Notes, Nat.zero_add]; exact hn)
  | tuple2 p q ihp ihq =>
    rcases Run.mem_events_andThen hr he with ⟨s, hs, he⟩ | ⟨s, a, rest, t, hs, houtcome, ht, he⟩
    · exact .call .tuple2Left (ihp hs he)
    · obtain ⟨u, hu, rfl⟩ := Option.map_eq_some_iff.mp ht
      exact .call (.tuple2Right (hleaves hs houtcome)) (ihq hu he)
  | tuple3 p q s ihp ihq ihs =>
    rcases Run.mem_events_andThen hr he with ⟨t, ht, he⟩ | ⟨t, a, rest, u, ht, houtcome, hu, he⟩
    · exact .call .tuple3Left (ihp ht he)
    · rcases Run.mem_events_andThen hu he with ⟨v, hv, he⟩ | ⟨v, b, rest', w, hv, houtcome', hw, he⟩
      · exact .call (.tuple3Middle (hleaves ht houtcome)) (ihq hv he)
      · obtain ⟨x, hx, rfl⟩ := Option.map_eq_some_iff.mp hw
        exact .call (.tuple3Right (hleaves ht houtcome) (hleaves hv houtcome')) (ihs hx he)
  | lazy name => exact hunfold name input r hr he
  | behind pointer p ih => exact .call .behind (ih hr he)
  | probe label p ih =>
    obtain ⟨s, hs, rfl⟩ := Option.map_eq_some_iff.mp hr
    rcases List.mem_append.mp he with he | he
    · obtain rfl := List.mem_singleton.mp he
      exact .self ⟨rfl, rfl⟩
    · exact .call .probe (ih hs he)

theorem sees_of_unfolding {depth : Nat} {name : ν} {input : Text} {r : Run ν (τ name)}
    (hr : unfolding body depth name input = some r) (he : e ∈ r.events) : (Grammar.lazy name).Sees body input e := by
  induction depth generalizing name input with
  | zero => contradiction
  | succ depth ih =>
    obtain ⟨s, hs, rfl⟩ := Option.map_eq_some_iff.mp hr
    rcases List.mem_append.mp he with he | he
    · obtain rfl := List.mem_singleton.mp he
      exact .self rfl
    · exact .call .lazy (sees_of_runWith (fun _ _ _ => ih) hs he)

/-- Every event of a run is noted by a parser that is run on some text. -/
theorem Gives.exists_visit {α : Type} {g : Grammar τ α} {input : Text} {r : Run ν α}
    (h : g.Gives body input r) (he : e ∈ r.events) :
    ∃ (β : Type) (g' : Grammar τ β) (text : Text), Visits body g input g' text ∧ g'.Notes text e := by
  obtain ⟨depth, hr⟩ := h
  exact sees_of_runWith (fun _ _ _ => sees_of_unfolding) hr he

end Grammar

end PatternGrammar
