import Mathlib.Data.List.OfFn
import PatternGrammar.Proofs.Grammar.Laws

/-!
# What combinators give

What a grammar gives on a text is put together of what its parts give, each on the text that it is run on. Depths do not
matter here: parts that end at different depths end at a common one (`Grammar.Gives.common`).
-/

namespace PatternGrammar

namespace Run

variable {ν α β γ : Type}

def mapResult (f : α × Text → β × Text) (r : Run ν α) : Run ν β :=
  ⟨r.outcome.map f, r.events⟩

theorem mapResult_id (r : Run ν α) : r.mapResult (fun x => x) = r := by
  rw [mapResult, Option.map_id_fun']
  rfl

/-- A last step that only looks at the outcome. -/
theorem andThen_mapResult {o : Option (Run ν α)} (f : α × Text → β × Text) :
    (o.bind fun r => r.andThen fun a rest => some (.success (f (a, rest)).1 (f (a, rest)).2)) =
      o.map (mapResult f) := by
  cases o with
  | none => rfl
  | some r =>
    obtain ⟨outcome, events⟩ := r
    cases outcome with
    | none => rfl
    | some x =>
      show some (after events (success (f x).1 (f x).2)) = some (mapResult f ⟨some x, events⟩)
      rw [after, success, List.append_nil]
      rfl

/-! ## Runs in a row -/

/-- What a run and another one behind it give, where the one behind it may be any that `next` allows. -/
inductive Then (s : Run ν α) (next : α → Text → Run ν β → Prop) : Run ν β → Prop where
  | fails (houtcome : s.outcome = none) : Then s next ⟨none, s.events⟩
  | goesOn {a : α} {rest : Text} {t : Run ν β} (houtcome : s.outcome = some (a, rest)) (ht : next a rest t) :
    Then s next (t.after s.events)

theorem Then.imp {s : Run ν α} {next next' : α → Text → Run ν β → Prop} {r : Run ν β} (h : s.Then next r)
    (hnext : ∀ a rest t, next a rest t → next' a rest t) : s.Then next' r := by
  cases h with
  | fails houtcome => exact .fails houtcome
  | goesOn houtcome ht => exact .goesOn houtcome (hnext _ _ _ ht)

theorem then_congr {s : Run ν α} {next next' : α → Text → Run ν β → Prop} {r : Run ν β}
    (hnext : ∀ a rest t, next a rest t ↔ next' a rest t) : s.Then next r ↔ s.Then next' r :=
  ⟨fun h => h.imp fun a rest t => (hnext a rest t).mp, fun h => h.imp fun a rest t => (hnext a rest t).mpr⟩

/-- A function on the value is applied before what comes next. -/
theorem map_then {f : α → β} {s : Run ν α} {next : β → Text → Run ν γ → Prop} {r : Run ν γ} :
    (s.map f).Then next r ↔ s.Then (fun a => next (f a)) r := by
  constructor
  · intro h
    cases h with
    | fails houtcome => exact .fails (Option.map_eq_none_iff.mp houtcome)
    | goesOn houtcome ht =>
      obtain ⟨⟨a, rest⟩, hsome, heq⟩ := Option.map_eq_some_iff.mp houtcome
      obtain ⟨rfl, rfl⟩ := Prod.mk.inj heq
      exact .goesOn hsome ht
  · intro h
    cases h with
    | fails houtcome => exact .fails (s := s.map f) (Option.map_eq_none_iff.mpr houtcome)
    | goesOn houtcome ht => exact .goesOn (s := s.map f) (Option.map_eq_some_iff.mpr ⟨_, houtcome, rfl⟩) ht

/-- Two runs behind one another stand behind a third one together. -/
theorem exists_then_then {s : Run ν α} {next : α → Text → Run ν β → Prop} {next' : β → Text → Run ν γ → Prop}
    {r : Run ν γ} :
    (∃ t, s.Then next t ∧ t.Then next' r) ↔ s.Then (fun a rest u => ∃ t, next a rest t ∧ t.Then next' u) r := by
  constructor
  · rintro ⟨t, h, h'⟩
    cases h with
    | fails houtcome =>
      cases h' with
      | fails => exact .fails houtcome
      | goesOn hsome => contradiction
    | @goesOn a rest t houtcome ht =>
      cases h' with
      | fails hnone => exact .goesOn (t := ⟨none, t.events⟩) houtcome ⟨t, ht, .fails hnone⟩
      | @goesOn b rest' u hsome hu =>
        -- the events of the first run come before those of the two behind it
        rw [show (t.after s.events).events = s.events ++ t.events from rfl, ← after_after]
        exact .goesOn houtcome ⟨t, ht, .goesOn hsome hu⟩
  · intro h
    cases h with
    | fails houtcome => exact ⟨⟨none, s.events⟩, .fails houtcome, .fails rfl⟩
    | goesOn houtcome ht =>
      obtain ⟨t, ht, h'⟩ := ht
      refine ⟨t.after s.events, .goesOn houtcome ht, ?_⟩
      cases h' with
      | fails hnone => exact .fails (s := t.after s.events) hnone
      | goesOn hsome hu =>
        rw [after_after]
        exact .goesOn (s := t.after s.events) hsome hu

theorem exists_then_map {f : β → γ} {s : Run ν α} {next : α → Text → Run ν β → Prop} {r : Run ν γ} :
    (∃ t, s.Then next t ∧ r = t.map f) ↔ s.Then (fun a rest u => ∃ t, next a rest t ∧ u = t.map f) r := by
  constructor
  · rintro ⟨t, h, rfl⟩
    cases h with
    | fails houtcome => exact .fails houtcome
    | @goesOn a rest t houtcome ht => exact .goesOn (t := t.map f) houtcome ⟨t, ht, rfl⟩
  · intro h
    cases h with
    | fails houtcome => exact ⟨_, .fails houtcome, rfl⟩
    | goesOn houtcome ht =>
      obtain ⟨t, ht, rfl⟩ := ht
      exact ⟨_, .goesOn houtcome ht, rfl⟩

/-- A run with nothing behind it is that run. -/
theorem then_success {s r : Run ν α} : s.Then (fun a rest t => t = .success a rest) r ↔ r = s := by
  obtain ⟨outcome, events⟩ := s
  constructor
  · intro h
    cases h with
    | fails houtcome =>
      obtain rfl : outcome = none := houtcome
      rfl
    | goesOn houtcome ht =>
      obtain rfl : outcome = some _ := houtcome
      rw [ht, after, success, List.append_nil]
  · rintro rfl
    cases outcome with
    | none => exact .fails rfl
    | some x =>
      have h : Then ⟨some x, events⟩ (fun a rest t => t = success a rest)
          ((success x.1 x.2 : Run ν α).after events) := .goesOn rfl rfl
      rw [after, success, List.append_nil] at h
      exact h

/-- Going on after a run is giving a run behind it. -/
theorem andThen_iff_then {o : Option (Run ν α)} {next : α → Text → Option (Run ν β)} {s : Run ν β} :
    (o.bind fun r => r.andThen next) = some s ↔
      ∃ r, o = some r ∧ r.Then (fun a rest t => next a rest = some t) s := by
  rw [andThen_eq_some]
  refine exists_congr fun r => and_congr_right fun _ => ?_
  constructor
  · rintro (⟨houtcome, rfl⟩ | ⟨a, rest, t, houtcome, ht, rfl⟩)
    · exact .fails houtcome
    · exact .goesOn houtcome ht
  · intro h
    cases h with
    | fails houtcome => exact .inl ⟨houtcome, rfl⟩
    | goesOn houtcome ht => exact .inr ⟨_, _, _, houtcome, ht, rfl⟩

end Run

namespace Grammar

variable {ν : Type} {τ : ν → Type} {body : (name : ν) → Grammar τ (τ name)} {α β γ : Type} {input : Text}

/-- A grammar ends on a text: with a value and a text left, or without success. -/
def Ends (body : (name : ν) → Grammar τ (τ name)) (g : Grammar τ α) (input : Text) (x : Option (α × Text)) : Prop :=
  ∃ r, g.Gives body input r ∧ r.outcome = x

/-- A grammar ends in one way at most. -/
theorem Ends.unique {g : Grammar τ α} {x y : Option (α × Text)} (hx : g.Ends body input x)
    (hy : g.Ends body input y) : x = y := by
  obtain ⟨r, hr, rfl⟩ := hx
  obtain ⟨s, hs, rfl⟩ := hy
  rw [hr.unique hs]

/-- What a grammar gives, its end included, it ends with. -/
theorem Gives.ends {g : Grammar τ α} {r : Run ν α} (h : g.Gives body input r) : g.Ends body input r.outcome :=
  ⟨r, h, rfl⟩

/-- Two runs that end do so at a common depth. -/
theorem Gives.common {g : Grammar τ α} {g' : Grammar τ β} {input' : Text} {r : Run ν α} {r' : Run ν β}
    (h : g.Gives body input r) (h' : g'.Gives body input' r') :
    ∃ depth, g.runDepth body depth input = some r ∧ g'.runDepth body depth input' = some r' := by
  obtain ⟨depth, hr⟩ := h
  obtain ⟨depth', hr'⟩ := h'
  exact ⟨max depth depth', runDepth_extends (Nat.le_max_left depth depth') g input r hr,
    runDepth_extends (Nat.le_max_right depth depth') g' input' r' hr'⟩

/-! ## One parser -/

/-- A pattern's parser ends as the pattern takes something out of the text or not. -/
theorem ends_regex (p : Pattern) (i : Interpreter α) (input : Text) :
    (regex p i : Grammar τ α).Ends body input ((p.extract input).map fun x => (i.eval x, x.stripped)) :=
  ⟨_, ⟨0, rfl⟩, Run.outcome_ofPattern p i input⟩

theorem gives_map {f : α → β} {p : Grammar τ α} {r : Run ν β} :
    (map f p).Gives body input r ↔ ∃ s, p.Gives body input s ∧ r = s.map f := by
  constructor
  · rintro ⟨depth, hr⟩
    obtain ⟨s, hs, rfl⟩ := Option.map_eq_some_iff.mp hr
    exact ⟨s, ⟨depth, hs⟩, rfl⟩
  · rintro ⟨s, ⟨depth, hs⟩, rfl⟩
    exact ⟨depth, Option.map_eq_some_iff.mpr ⟨s, hs, rfl⟩⟩

/-! ## Two parsers in a row -/

/-- The ways to run two parsers in a row, by the types of their values and of the value of both. -/
inductive Sequencing : Type → Type → Type → Type 1 where
  | apply {α β : Type} : Sequencing (α → β) α β
  | keepRight {α β : Type} : Sequencing α β β
  | keepLeft {α β : Type} : Sequencing α β α
  | tuple2 {α β : Type} : Sequencing α β (α × β)

namespace Sequencing

def of : {α β γ : Type} → Sequencing α β γ → Grammar τ α → Grammar τ β → Grammar τ γ
  | _, _, _, apply, p, q => .apply p q
  | _, _, _, keepRight, p, q => .keepRight p q
  | _, _, _, keepLeft, p, q => .keepLeft p q
  | _, _, _, tuple2, p, q => .tuple2 p q

def result : {α β γ : Type} → Sequencing α β γ → α → Text → β × Text → γ × Text
  | _, _, _, apply, f, _, (a, rest) => (f a, rest)
  | _, _, _, keepRight, _, _, (b, rest) => (b, rest)
  -- what the second one took is given back
  | _, _, _, keepLeft, a, rest, _ => (a, rest)
  | _, _, _, tuple2, a, _, (b, rest) => ((a, b), rest)

/-- All ways to run two parsers in a row run the second one on what the first one leaves. -/
theorem runWith_of (S : Sequencing α β γ) (unfold : (name : ν) → Text → Option (Run ν (τ name)))
    (p : Grammar τ α) (q : Grammar τ β) (input : Text) :
    (S.of p q).runWith unfold input =
      (p.runWith unfold input).bind fun r => r.andThen fun a rest =>
        (q.runWith unfold rest).map (.mapResult (S.result a rest)) := by
  cases S with
  | apply => rfl
  | keepRight =>
    -- the second run is kept as it is
    have hkeep (a : α) (rest : Text) :
        (q.runWith unfold rest).map (.mapResult (keepRight.result a rest)) = q.runWith unfold rest := by
      rw [show (Run.mapResult (keepRight.result a rest) : Run ν β → Run ν β) = id from funext Run.mapResult_id,
        Option.map_id, id]
    simp only [hkeep]
    rfl
  | keepLeft =>
    show ((p.runWith unfold input).bind fun r => r.andThen fun a rest =>
      (q.runWith unfold rest).bind fun s => s.andThen fun _ _ => some (.success a rest)) = _
    simp only [← Run.andThen_mapResult]
    rfl
  | tuple2 => rfl

/-- Two parsers in a row give what the first one does and, where it succeeds, what the second one does behind it. -/
theorem gives_of (S : Sequencing α β γ) {p : Grammar τ α} {q : Grammar τ β} {r : Run ν γ} :
    (S.of p q).Gives body input r ↔
      ∃ s, p.Gives body input s ∧
        s.Then (fun a rest t => ∃ u, q.Gives body rest u ∧ t = u.mapResult (S.result a rest)) r := by
  simp only [Gives, runDepth, runWith_of, Run.andThen_iff_then]
  constructor
  · rintro ⟨depth, s, hs, hthen⟩
    refine ⟨s, ⟨depth, hs⟩, hthen.imp fun a rest t ht => ?_⟩
    obtain ⟨u, hu, rfl⟩ := Option.map_eq_some_iff.mp ht
    exact ⟨u, ⟨depth, hu⟩, rfl⟩
  · rintro ⟨s, hs, hthen⟩
    cases hthen with
    | fails houtcome =>
      obtain ⟨depth, hs⟩ := hs
      exact ⟨depth, s, hs, .fails houtcome⟩
    | goesOn houtcome ht =>
      obtain ⟨u, hu, rfl⟩ := ht
      obtain ⟨depth, hs, hu⟩ := Gives.common hs hu
      exact ⟨depth, s, hs, .goesOn houtcome (Option.map_eq_some_iff.mpr ⟨u, hu, rfl⟩)⟩

/-- Two parsers in a row fail with the first, and else end as the second does behind it. -/
theorem ends_of (S : Sequencing α β γ) {p : Grammar τ α} {q : Grammar τ β} {x : Option (γ × Text)} :
    (S.of p q).Ends body input x ↔
      p.Ends body input none ∧ x = none ∨
        ∃ a rest y, p.Ends body input (some (a, rest)) ∧ q.Ends body rest y ∧ x = y.map (S.result a rest) := by
  constructor
  · rintro ⟨r, hr, rfl⟩
    obtain ⟨s, hs, hthen⟩ := S.gives_of.mp hr
    cases hthen with
    | fails houtcome => exact .inl ⟨⟨s, hs, houtcome⟩, rfl⟩
    | goesOn houtcome ht =>
      obtain ⟨u, hu, rfl⟩ := ht
      exact .inr ⟨_, _, u.outcome, ⟨s, hs, houtcome⟩, hu.ends, rfl⟩
  · rintro (⟨⟨s, hs, houtcome⟩, rfl⟩ | ⟨a, rest, y, ⟨s, hs, houtcome⟩, ⟨u, hu, rfl⟩, rfl⟩)
    · exact ⟨_, S.gives_of.mpr ⟨s, hs, .fails houtcome⟩, rfl⟩
    · exact ⟨_, S.gives_of.mpr ⟨s, hs, .goesOn houtcome ⟨u, hu, rfl⟩⟩, rfl⟩

end Sequencing

theorem gives_apply {p : Grammar τ (α → β)} {q : Grammar τ α} {r : Run ν β} :
    (apply p q).Gives body input r ↔
      ∃ s, p.Gives body input s ∧ s.Then (fun f rest => (map f q).Gives body rest) r := by
  refine Iff.trans (Sequencing.apply.gives_of (p := p) (q := q)) ?_
  exact exists_congr fun s => and_congr_right fun _ => Run.then_congr fun f rest t => gives_map.symm

/-! ## Alternatives -/

/-- Of two alternatives the second is run on the same text where the first one failed, and that is noted. -/
theorem gives_orElse {p q : Grammar τ α} {r : Run ν α} :
    (orElse p q).Gives body input r ↔
      p.Gives body input r ∧ r.outcome ≠ none ∨
        ∃ s t, p.Gives body input s ∧ s.outcome = none ∧ q.Gives body input t ∧
          r = t.after (s.events ++ [.firstAlternativeFailed input]) := by
  constructor
  · rintro ⟨depth, hr⟩
    obtain ⟨s, hs, ⟨houtcome, rfl⟩ | ⟨houtcome, t, ht, rfl⟩⟩ := Run.otherwise_eq_some.mp hr
    · exact .inl ⟨⟨depth, hs⟩, houtcome⟩
    · exact .inr ⟨s, t, ⟨depth, hs⟩, houtcome, ⟨depth, ht⟩, rfl⟩
  · rintro (⟨⟨depth, hr⟩, houtcome⟩ | ⟨s, t, hs, houtcome, ht, rfl⟩)
    · exact ⟨depth, Run.otherwise_eq_some.mpr ⟨r, hr, .inl ⟨houtcome, rfl⟩⟩⟩
    · obtain ⟨depth, hs, ht⟩ := hs.common ht
      exact ⟨depth, Run.otherwise_eq_some.mpr ⟨s, hs, .inr ⟨houtcome, t, ht, rfl⟩⟩⟩

/-- A grammar ends like a second one where that succeeds, and like a third one where it fails. -/
def Chooses (body : (name : ν) → Grammar τ (τ name)) (g p q : Grammar τ α) : Prop :=
  ∀ input x, g.Ends body input x ↔
    p.Ends body input x ∧ x ≠ none ∨ p.Ends body input none ∧ q.Ends body input x

/-- Two grammars that choose the same first and agree on the second end alike. -/
theorem Chooses.congr {g g' p q q' : Grammar τ α} {x : Option (α × Text)} (h : Chooses body g p q)
    (h' : Chooses body g' p q') (hq : q.Ends body input x ↔ q'.Ends body input x) :
    g.Ends body input x ↔ g'.Ends body input x := by
  rw [h input x, h' input x, hq]

theorem chooses_orElse (p q : Grammar τ α) : Chooses body (orElse p q) p q := by
  intro input x
  constructor
  · rintro ⟨r, hr, rfl⟩
    obtain ⟨hp, houtcome⟩ | ⟨s, t, hs, houtcome, ht, rfl⟩ := gives_orElse.mp hr
    · exact .inl ⟨hp.ends, houtcome⟩
    · exact .inr ⟨⟨s, hs, houtcome⟩, ht.ends⟩
  · rintro (⟨⟨r, hr, rfl⟩, hne⟩ | ⟨⟨s, hs, houtcome⟩, ⟨t, ht, rfl⟩⟩)
    · exact ⟨r, gives_orElse.mpr (.inl ⟨hr, hne⟩), rfl⟩
    · exact ⟨_, gives_orElse.mpr (.inr ⟨s, t, hs, houtcome, ht, rfl⟩), rfl⟩

/-- What the alternatives of a choice give from one of them on, which has the given index. -/
def Tries (body : (name : ν) → Grammar τ (τ name)) (index : Nat) (ps : List (Grammar τ α)) (input : Text)
    (r : Run ν α) : Prop :=
  ∃ depth, Run.firstOf input index (ps.map fun p => p.runDepth body depth) = some r

theorem map_runDepth (ps : List (Grammar τ α)) (depth : Nat) :
    (ps.map fun p => p.runDepth body depth) = List.ofFn fun i => fun text => (ps.get i).runDepth body depth text := by
  conv => lhs; rw [← List.ofFn_get ps, List.map_ofFn]
  rfl

/-- A choice is what its alternatives give one after the other. -/
theorem gives_choice {ps : List (Grammar τ α)} {r : Run ν α} :
    (choice ps).Gives body input r ↔ Tries body 0 ps input r := by
  simp only [Tries, map_runDepth]
  rfl

theorem Tries.extends {index : Nat} {ps : List (Grammar τ α)} {depth depth' : Nat} (hle : depth ≤ depth') :
    Run.Extends (Run.firstOf input index (ps.map fun p => p.runDepth body depth))
      (Run.firstOf input index (ps.map fun p => p.runDepth body depth')) := by
  rw [map_runDepth, map_runDepth]
  exact .firstOf input index fun i => runDepth_extends hle (ps.get i) input

theorem tries_nil {index : Nat} {r : Run ν α} :
    Tries body index ([] : List (Grammar τ α)) input r ↔ r = ⟨none, []⟩ := by
  constructor
  · rintro ⟨depth, hr⟩
    exact (Option.some.inj hr).symm
  · rintro rfl
    exact ⟨0, rfl⟩

/-- The alternatives are gone through from the first one, up to one that succeeds. -/
theorem tries_cons {index : Nat} {p : Grammar τ α} {ps : List (Grammar τ α)} {r : Run ν α} :
    Tries body index (p :: ps) input r ↔
      p.Gives body input r ∧ r.outcome ≠ none ∨
        ∃ s t, p.Gives body input s ∧ s.outcome = none ∧ Tries body (index + 1) ps input t ∧
          r = t.after (s.events ++ [.alternativeFailed index ps.length]) := by
  constructor
  · rintro ⟨depth, hr⟩
    rw [List.map_cons, Run.firstOf, List.length_map] at hr
    obtain ⟨s, hs, ⟨houtcome, rfl⟩ | ⟨houtcome, t, ht, rfl⟩⟩ := Run.otherwise_eq_some.mp hr
    · exact .inl ⟨⟨depth, hs⟩, houtcome⟩
    · exact .inr ⟨s, t, ⟨depth, hs⟩, houtcome, ⟨depth, ht⟩, rfl⟩
  · rintro (⟨⟨depth, hr⟩, houtcome⟩ | ⟨s, t, ⟨depth, hs⟩, houtcome, ⟨depth', ht⟩, rfl⟩)
    · refine ⟨depth, ?_⟩
      rw [List.map_cons, Run.firstOf]
      exact Run.otherwise_eq_some.mpr ⟨r, hr, .inl ⟨houtcome, rfl⟩⟩
    · refine ⟨max depth depth', ?_⟩
      rw [List.map_cons, Run.firstOf, List.length_map]
      exact Run.otherwise_eq_some.mpr ⟨s, runDepth_extends (Nat.le_max_left _ _) p input s hs,
        .inr ⟨houtcome, t, Tries.extends (Nat.le_max_right _ _) t ht, rfl⟩⟩

end Grammar

end PatternGrammar
