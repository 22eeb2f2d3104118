import Mathlib.Data.List.Forall2
import PatternGrammar.Proofs.Grammar.Steps

/-!
# Ordered choice

A choice runs its alternatives in order on one text and gives what the first one that succeeds gives, behind the events
of those that failed (`Grammar.choice_first`). A step that stands before a choice may be moved into the alternatives,
and one behind it too where the whole succeeds (`Grammar.Sequencing.choice_factors`).
-/

namespace PatternGrammar

/-- The events of alternatives that failed, out of `n`: those of each one, and that it failed with so many alternatives
still to come. The first one has the given index. -/
def Run.failures {ν α : Type} (n index : Nat) (failed : List (Run ν α)) : List (Event ν) :=
  (failed.zipIdx index).flatMap fun (s, i) => s.events ++ [.alternativeFailed i (n - i - 1)]

theorem Run.failures_cons {ν α : Type} (n index : Nat) (s : Run ν α) (failed : List (Run ν α)) :
    failures n index (s :: failed) =
      s.events ++ [.alternativeFailed index (n - index - 1)] ++ failures n (index + 1) failed := by
  rw [failures, List.zipIdx_cons, List.flatMap_cons]
  rfl

namespace Grammar

variable {ν : Type} {τ : ν → Type} {body : (name : ν) → Grammar τ (τ name)} {α β γ : Type} {input : Text}

/-! ## The order of alternatives -/

/-- Some alternatives fail, and all of them do or the next one succeeds. -/
theorem Tries.exists_failed {n index : Nat} {ps : List (Grammar τ α)} {r : Run ν α} (hn : index + ps.length = n)
    (h : Tries body index ps input r) :
    ∃ before failed, List.Forall₂ (fun p s => p.Gives body input s ∧ s.outcome = none) before failed ∧
      (ps = before ∧ r = ⟨none, Run.failures n index failed⟩ ∨
        ∃ p later s, ps = before ++ p :: later ∧ p.Gives body input s ∧ s.outcome ≠ none ∧
          r = s.after (Run.failures n index failed)) := by
  induction ps generalizing index r with
  | nil =>
    obtain rfl := tries_nil.mp h
    exact ⟨[], [], .nil, .inl ⟨rfl, rfl⟩⟩
  | cons p ps ih =>
    rw [List.length_cons] at hn
    obtain ⟨hp, houtcome⟩ | ⟨s, t, hs, houtcome, ht, rfl⟩ := tries_cons.mp h
    · exact ⟨[], [], .nil, .inr ⟨p, ps, r, rfl, hp, houtcome, rfl⟩⟩
    · -- the first one joins those that fail behind it
      obtain ⟨before, failed, hfailed, hrest⟩ := ih (by omega) ht
      refine ⟨p :: before, s :: failed, .cons ⟨hs, houtcome⟩ hfailed, ?_⟩
      rw [Run.failures_cons, show n - index - 1 = ps.length by omega]
      rcases hrest with ⟨rfl, rfl⟩ | ⟨q, later, u, rfl, hu, hne, rfl⟩
      · exact .inl ⟨rfl, rfl⟩
      · exact .inr ⟨q, later, u, rfl, hu, hne, Run.after_after _ _ u⟩

/-- Alternatives that fail stand before what those behind them give. -/
theorem tries_append {n index : Nat} {before later : List (Grammar τ α)} {failed : List (Run ν α)} {t : Run ν α}
    (hn : index + (before ++ later).length = n)
    (hfailed : List.Forall₂ (fun p s => p.Gives body input s ∧ s.outcome = none) before failed)
    (ht : Tries body (index + before.length) later input t) :
    Tries body index (before ++ later) input (t.after (Run.failures n index failed)) := by
  induction hfailed generalizing index with
  | nil => exact ht
  | @cons p s before failed hs hfailed ih =>
    rw [List.cons_append, List.length_cons] at hn
    rw [List.length_cons, ← Nat.add_assoc, Nat.add_right_comm] at ht
    rw [Run.failures_cons, show n - index - 1 = (before ++ later).length by omega]
    exact tries_cons.mpr (.inr ⟨s, _, hs.1, hs.2, ih (by omega) ht, (Run.after_after _ _ t).symm⟩)

/-- A choice ends where its alternatives do. -/
theorem exists_tries {index : Nat} {ps : List (Grammar τ α)} (hps : ∀ p ∈ ps, ∃ s, p.Gives body input s) :
    ∃ r, Tries body index ps input r := by
  induction ps generalizing index with
  | nil => exact ⟨_, tries_nil.mpr rfl⟩
  | cons p ps ih =>
    obtain ⟨s, hs⟩ := hps p List.mem_cons_self
    by_cases houtcome : s.outcome = none
    · obtain ⟨t, ht⟩ := @ih (index + 1) fun q hq => hps q (List.mem_cons_of_mem p hq)
      exact ⟨_, tries_cons.mpr (.inr ⟨s, t, hs, houtcome, ht, rfl⟩)⟩
    · exact ⟨s, tries_cons.mpr (.inl ⟨hs, houtcome⟩)⟩

/-! ## Outcomes of choices -/

/-- Where alternatives stand does not matter for the outcome. -/
theorem Tries.moved {index : Nat} {ps : List (Grammar τ α)} {r : Run ν α} (h : Tries body index ps input r)
    (index' : Nat) : ∃ r', Tries body index' ps input r' ∧ r'.outcome = r.outcome := by
  induction ps generalizing index index' r with
  | nil => exact ⟨r, tries_nil.mpr (tries_nil.mp h), rfl⟩
  | cons p ps ih =>
    obtain hfirst | ⟨s, t, hs, houtcome, ht, rfl⟩ := tries_cons.mp h
    · exact ⟨r, tries_cons.mpr (.inl hfirst), rfl⟩
    · obtain ⟨t', ht', heq⟩ := ih ht (index' + 1)
      exact ⟨_, tries_cons.mpr (.inr ⟨s, t', hs, houtcome, ht', rfl⟩), heq⟩

/-- A choice of nothing fails. -/
theorem ends_choice_nil {x : Option (α × Text)} : (choice ([] : List (Grammar τ α))).Ends body input x ↔ x = none := by
  simp only [Ends, gives_choice, tries_nil, exists_eq_left]
  exact eq_comm

/-- A choice is its first alternative, or else the choice of the others. -/
theorem chooses_choice_cons (p : Grammar τ α) (ps : List (Grammar τ α)) :
    Chooses body (choice (p :: ps)) p (choice ps) := by
  intro input x
  constructor
  · rintro ⟨r, hr, rfl⟩
    obtain ⟨hp, houtcome⟩ | ⟨s, t, hs, houtcome, ht, rfl⟩ := tries_cons.mp (gives_choice.mp hr)
    · exact .inl ⟨hp.ends, houtcome⟩
    · obtain ⟨t', ht', heq⟩ := ht.moved 0
      exact .inr ⟨⟨s, hs, houtcome⟩, t', gives_choice.mpr ht', heq⟩
  · rintro (⟨⟨r, hr, rfl⟩, hne⟩ | ⟨⟨s, hs, houtcome⟩, ⟨t, ht, rfl⟩⟩)
    · exact ⟨r, gives_choice.mpr (tries_cons.mpr (.inl ⟨hr, hne⟩)), rfl⟩
    · obtain ⟨t', ht', heq⟩ := (gives_choice.mp ht).moved 1
      exact ⟨_, gives_choice.mpr (tries_cons.mpr (.inr ⟨s, t', hs, houtcome, ht', rfl⟩)), heq⟩

/-- Behind some alternatives others are tried where those fail. -/
theorem chooses_choice_append (ps qs : List (Grammar τ α)) :
    Chooses body (choice (ps ++ qs)) (choice ps) (choice qs) := by
  intro input x
  induction ps with
  | nil =>
    rw [List.nil_append, ends_choice_nil, ends_choice_nil]
    constructor
    · exact fun hqs => .inr ⟨rfl, hqs⟩
    · rintro (⟨rfl, hne⟩ | ⟨-, hqs⟩)
      · exact absurd rfl hne
      · exact hqs
  | cons p ps ih =>
    rw [List.cons_append, chooses_choice_cons p (ps ++ qs), ih, chooses_choice_cons p ps, chooses_choice_cons p ps]
    constructor
    · rintro (⟨hp, hne⟩ | ⟨hp, ⟨hps, hne⟩ | ⟨hps, hqs⟩⟩)
      · exact .inl ⟨.inl ⟨hp, hne⟩, hne⟩
      · exact .inl ⟨.inr ⟨hp, hps⟩, hne⟩
      · exact .inr ⟨.inr ⟨hp, hps⟩, hqs⟩
    · rintro (⟨⟨hp, hne⟩ | ⟨hp, hps⟩, hne'⟩ | ⟨⟨-, hne⟩ | ⟨hp, hps⟩, hqs⟩)
      · exact .inl ⟨hp, hne⟩
      · exact .inr ⟨hp, .inl ⟨hps, hne'⟩⟩
      · exact absurd rfl hne
      · exact .inr ⟨hp, .inr ⟨hps, hqs⟩⟩

/-- A choice of one is that one. -/
theorem ends_choice_singleton {p : Grammar τ α} {x : Option (α × Text)} :
    (choice [p]).Ends body input x ↔ p.Ends body input x := by
  rw [chooses_choice_cons p [], ends_choice_nil]
  constructor
  · rintro (⟨hp, -⟩ | ⟨hp, rfl⟩)
    · exact hp
    · exact hp
  · intro hp
    by_cases hne : x = none
    · exact .inr ⟨hne ▸ hp, hne⟩
    · exact .inl ⟨hp, hne⟩

/-- Alternatives that are nested to the right, before one that fails. -/
theorem ends_foldr_orElse {ps : List (Grammar τ α)} {last : Grammar τ α} (hlast : last.Ends body input none)
    {x : Option (α × Text)} : (ps.foldr orElse last).Ends body input x ↔ (choice ps).Ends body input x := by
  induction ps with
  | nil =>
    rw [List.foldr_nil, ends_choice_nil]
    constructor
    · exact fun hx => hx.unique hlast
    · rintro rfl
      exact hlast
  | cons p ps ih => exact (chooses_orElse p _).congr (chooses_choice_cons p ps) ih

/-- A choice gives what the first alternative that succeeds gives, behind the events of those before it, each followed
by an event with its index and the number of alternatives behind it. It ends where the alternatives do, and those behind
the first success need not. Choices in a choice, and alternatives in pairs, make no difference to the result. -/
theorem choice_first (ps : List (Grammar τ α)) (input : Text) :
    (∀ r, (choice ps).Gives body input r ↔
      ∃ before failed, List.Forall₂ (fun p s => p.Gives body input s ∧ s.outcome = none) before failed ∧
        (∀ i < failed.length, i + 1 + (ps.length - i - 1) = ps.length) ∧
        (ps = before ∧ r = ⟨none, Run.failures ps.length 0 failed⟩ ∨
          ∃ p later s, ps = before ++ p :: later ∧ p.Gives body input s ∧ s.outcome ≠ none ∧
            r = ⟨s.outcome, Run.failures ps.length 0 failed ++ s.events⟩)) ∧
      ((∀ p ∈ ps, ∃ s, p.Gives body input s) → ∃ r, (choice ps).Gives body input r) ∧
      (∀ xs ys zs : List (Grammar τ α), ∀ x,
        (choice (xs ++ [choice ys] ++ zs)).Ends body input x ↔ (choice (xs ++ ys ++ zs)).Ends body input x) ∧
      ∀ last : Grammar τ α, last.Ends body input none → ∀ x,
        (ps.foldr orElse last).Ends body input x ↔ (choice ps).Ends body input x := by
  refine ⟨fun r => ?_, fun hps => ?_, fun xs ys zs x => ?_, fun last hlast x => ends_foldr_orElse hlast⟩
  · rw [gives_choice]
    constructor
    · intro hr
      obtain ⟨before, failed, hfailed, hrest⟩ := hr.exists_failed (Nat.zero_add ps.length)
      refine ⟨before, failed, hfailed, fun i hi => ?_, hrest⟩
      -- no more runs than alternatives, so that the numbers of those still to come are what they should be
      have hlength : before.length = failed.length := hfailed.length_eq
      have hle : before.length ≤ ps.length := by
        rcases hrest with ⟨rfl, -⟩ | ⟨p, later, s, rfl, -⟩
        · exact Nat.le_refl _
        · rw [List.length_append]
          exact Nat.le_add_right _ _
      omega
    · rintro ⟨before, failed, hfailed, -, ⟨rfl, rfl⟩ | ⟨p, later, s, rfl, hs, houtcome, rfl⟩⟩
      · have hall := tries_append (Nat.zero_add _) hfailed (tries_nil.mpr rfl)
        rw [List.append_nil, Run.after, List.append_nil] at hall
        exact hall
      · exact tries_append (Nat.zero_add _) hfailed (tries_cons.mpr (.inl ⟨hs, houtcome⟩))
  · obtain ⟨r, hr⟩ := exists_tries hps
    exact ⟨r, gives_choice.mpr hr⟩
  · -- the inner choice is one alternative, tried behind those before it like its own alternatives
    simp only [chooses_choice_append _ _ _ _, ends_choice_singleton]

/-- An alternative behind the first success never ends. -/
theorem choice_first_endless :
    ∃ (body : Unit → Grammar (fun _ : Unit => Char) Char) (ps : List (Grammar (fun _ : Unit => Char) Char)),
      body () = .lazy () ∧ ps = [.fail, .anyChar, .lazy ()] ∧
        (choice ps).Gives body ['a'] ⟨some ('a', []), [.alternativeFailed 0 2]⟩ ∧
        (ps.foldr orElse fail).Ends body ['a'] (some ('a', [])) ∧
        ∃ r, (choice (ps.take 2)).Gives body ['a'] r := by
  let body : Unit → Grammar (fun _ : Unit => Char) Char := fun _ => .lazy ()
  let ps : List (Grammar (fun _ : Unit => Char) Char) := [.fail, .anyChar, .lazy ()]
  have hfail : (fail : Grammar (fun _ : Unit => Char) Char).Gives body ['a'] ⟨none, []⟩ := ⟨0, rfl⟩
  have hchar : (anyChar : Grammar (fun _ : Unit => Char) Char).Gives body ['a'] ⟨some ('a', []), []⟩ :=
    ⟨0, rfl⟩
  obtain ⟨hgives, -, -, hchain⟩ := @choice_first _ _ body _ ps ['a']
  have hchoice : (choice ps).Gives body ['a'] ⟨some ('a', []), [.alternativeFailed 0 2]⟩ := by
    refine (hgives _).mpr ⟨[.fail], [⟨none, []⟩], .cons ⟨hfail, rfl⟩ .nil, by decide, .inr ?_⟩
    exact ⟨.anyChar, [.lazy ()], _, rfl, hchar, Option.some_ne_none _, rfl⟩
  refine ⟨body, ps, rfl, rfl, hchoice, (hchain fail hfail.ends _).mpr hchoice.ends, ?_⟩
  apply (@choice_first _ _ body _ (ps.take 2) ['a']).2.1
  intro p hp
  rcases List.mem_pair.mp hp with rfl | rfl
  · exact ⟨_, hfail⟩
  · exact ⟨_, hchar⟩

/-! ## Steps before and behind a choice -/

/-- A step before two alternatives may be taken in each of them: where it fails, both do. -/
theorem Sequencing.chooses (S : Sequencing α β γ) (p : Grammar τ α) {g q q' : Grammar τ β}
    (h : Chooses body g q q') : Chooses body (S.of p g) (S.of p q) (S.of p q') := by
  intro input x
  rw [S.ends_of, S.ends_of, S.ends_of, S.ends_of]
  constructor
  · rintro (⟨hp, rfl⟩ | ⟨a, rest, y, hp, hg, rfl⟩)
    · exact .inr ⟨.inl ⟨hp, rfl⟩, .inl ⟨hp, rfl⟩⟩
    · obtain ⟨hq, hne⟩ | ⟨hq, hq'⟩ := (h rest y).mp hg
      · exact .inl ⟨.inr ⟨a, rest, y, hp, hq, rfl⟩, fun hnone => hne (Option.map_eq_none_iff.mp hnone)⟩
      · exact .inr ⟨.inr ⟨a, rest, none, hp, hq, rfl⟩, .inr ⟨a, rest, y, hp, hq', rfl⟩⟩
  · rintro (⟨⟨-, rfl⟩ | ⟨a, rest, y, hp, hq, rfl⟩, hne⟩ | ⟨hfails, hlater⟩)
    · exact absurd rfl hne
    · refine .inr ⟨a, rest, y, hp, (h rest y).mpr (.inl ⟨hq, ?_⟩), rfl⟩
      rintro rfl
      exact hne rfl
    · rcases hlater with ⟨hp, rfl⟩ | ⟨a, rest, y, hp, hq', rfl⟩
      · exact .inl ⟨hp, rfl⟩
      · -- the step succeeds, so that it was the first alternative that failed
        rcases hfails with ⟨hp', -⟩ | ⟨a', rest', y', hp', hq, hnone⟩
        · exact absurd (hp.unique hp') (Option.some_ne_none _)
        · obtain ⟨rfl, rfl⟩ := Prod.mk.inj (Option.some.inj (hp.unique hp'))
          rw [eq_comm, Option.map_eq_none_iff] at hnone
          exact .inr ⟨a, rest, y, hp, (h rest y).mpr (.inr ⟨hnone ▸ hq, hq'⟩), rfl⟩

/-- Where a step succeeds behind the one of two alternatives that was chosen, it does so behind each of them that is
tried by itself. -/
theorem Sequencing.succeeds_of_chooses (S : Sequencing α β γ) {g p p' : Grammar τ α} (q : Grammar τ β)
    (h : Chooses body g p p') {y : γ × Text} (hy : (S.of g q).Ends body input (some y)) :
    (S.of p q).Ends body input (some y) ∨
      (S.of p q).Ends body input none ∧ (S.of p' q).Ends body input (some y) := by
  obtain ⟨-, hnone⟩ | ⟨a, rest, z, hg, hq, heq⟩ := S.ends_of.mp hy
  · exact absurd hnone (Option.some_ne_none y)
  · obtain ⟨hp, -⟩ | ⟨hp, hp'⟩ := (h input _).mp hg
    · exact .inl (S.ends_of.mpr (.inr ⟨a, rest, z, hp, hq, heq⟩))
    · exact .inr ⟨S.ends_of.mpr (.inl ⟨hp, rfl⟩), S.ends_of.mpr (.inr ⟨a, rest, z, hp', hq, heq⟩)⟩

theorem Sequencing.ends_of_choice_nil (S : Sequencing α β γ) {p : Grammar τ α}
    (hp : ∃ y, p.Ends body input y) : (S.of p (choice [])).Ends body input none := by
  obtain ⟨y, hy⟩ := hp
  rw [S.ends_of]
  cases y with
  | none => exact .inl ⟨hy, rfl⟩
  | some y => exact .inr ⟨y.1, y.2, none, hy, ends_choice_nil.mpr rfl, rfl⟩

/-- A step in front of a choice of at least one is the same as in front of each alternative. -/
theorem Sequencing.ends_of_choice_cons (S : Sequencing α β γ) (p : Grammar τ α) (q : Grammar τ β)
    (qs : List (Grammar τ β)) {x : Option (γ × Text)} :
    (S.of p (choice (q :: qs))).Ends body input x ↔ (choice ((q :: qs).map (S.of p))).Ends body input x := by
  induction qs generalizing q x with
  | nil =>
    rw [List.map_singleton, ends_choice_singleton, S.ends_of, S.ends_of]
    simp only [ends_choice_singleton]
  | cons q' qs ih => exact (S.chooses p (chooses_choice_cons q _)).congr (chooses_choice_cons _ _) (ih q')

/-- A step that succeeds behind a choice does so behind one of the alternatives, and fails behind those before it. -/
theorem Sequencing.succeeds_of_choice (S : Sequencing α β γ) {ps : List (Grammar τ α)} {q : Grammar τ β}
    {y : γ × Text} (hy : (S.of (choice ps) q).Ends body input (some y)) :
    (choice (ps.map fun p => S.of p q)).Ends body input (some y) := by
  induction ps with
  | nil =>
    obtain ⟨-, hnone⟩ | ⟨a, rest, z, hends, -⟩ := S.ends_of.mp hy
    · exact absurd hnone (Option.some_ne_none y)
    · exact absurd (ends_choice_nil.mp hends) (Option.some_ne_none _)
  | cons p ps ih =>
    rw [List.map_cons, chooses_choice_cons _ _ input]
    exact (S.succeeds_of_chooses q (chooses_choice_cons p ps) hy).imp (fun h => ⟨h, Option.some_ne_none y⟩)
      fun h => ⟨h.1, ih h.2⟩

/-- Before a choice, a step may be taken once or in each alternative, with the same result; only where there are no
alternatives, and the step does not end, does the choice of none fail by itself. Behind a choice, a step that succeeds
once does so in the alternatives too. The same holds of two alternatives. -/
theorem Sequencing.choice_factors (S : Sequencing α β γ) (input : Text) :
    (∀ (p : Grammar τ α) (qs : List (Grammar τ β)) (x : Option (γ × Text)),
      (choice (qs.map (S.of p))).Ends body input x ↔
        (S.of p (choice qs)).Ends body input x ∨ qs = [] ∧ x = none ∧ ¬ ∃ y, p.Ends body input y) ∧
      (∀ (ps : List (Grammar τ α)) (q : Grammar τ β) (y : γ × Text),
        (S.of (choice ps) q).Ends body input (some y) →
          (choice (ps.map fun p => S.of p q)).Ends body input (some y)) ∧
      (∀ (p : Grammar τ α) (q q' : Grammar τ β) (x : Option (γ × Text)),
        (orElse (S.of p q) (S.of p q')).Ends body input x ↔ (S.of p (orElse q q')).Ends body input x) ∧
      ∀ (p p' : Grammar τ α) (q : Grammar τ β) (y : γ × Text),
        (S.of (orElse p p') q).Ends body input (some y) →
          (orElse (S.of p q) (S.of p' q)).Ends body input (some y) := by
  refine ⟨fun p qs x => ?_, fun ps q y hy => ?_, fun p q q' x => ?_, fun p p' q y hy => ?_⟩
  · cases qs with
    | nil =>
      rw [List.map_nil, ends_choice_nil]
      constructor
      · rintro rfl
        by_cases hp : ∃ y, p.Ends body input y
        · exact .inl (S.ends_of_choice_nil hp)
        · exact .inr ⟨rfl, rfl, hp⟩
      · rintro (hends | ⟨-, rfl, -⟩)
        · obtain ⟨-, rfl⟩ | ⟨a, rest, y, -, hy, rfl⟩ := S.ends_of.mp hends
          · rfl
          · rw [ends_choice_nil.mp hy, Option.map_none]
        · rfl
    | cons q qs =>
      rw [← S.ends_of_choice_cons]
      exact ⟨.inl, fun h => h.resolve_right fun hnil => List.cons_ne_nil q qs hnil.1⟩
  · exact S.succeeds_of_choice hy
  · exact (chooses_orElse _ _).congr (S.chooses p (chooses_orElse q q')) Iff.rfl
  · refine (chooses_orElse _ _ input _).mpr ?_
    exact (S.succeeds_of_chooses q (chooses_orElse p p') hy).imp_left fun h => ⟨h, Option.some_ne_none y⟩

/-- A character before another one, which is given back: with the choice behind it, and in front. -/
theorem choice_factors_lookahead :
    ∃ (body : Unit → Grammar (fun _ : Unit => Char) Char) (p q : Grammar (fun _ : Unit => Char) Char),
      p = fail ∧ q = anyChar ∧
        (keepLeft q (choice [p, q])).Ends body ['a', 'b'] (some ('a', ['b'])) ∧
        (choice [keepLeft q p, keepLeft q q]).Ends body ['a', 'b'] (some ('a', ['b'])) ∧
        (keepLeft (choice [p, q]) q).Ends body ['a', 'b'] (some ('a', ['b'])) ∧
        (choice [keepLeft p q, keepLeft q q]).Ends body ['a', 'b'] (some ('a', ['b'])) ∧
        (orElse (keepLeft q p) (keepLeft q q)).Ends body ['a', 'b'] (some ('a', ['b'])) ∧
        (orElse (keepLeft p q) (keepLeft q q)).Ends body ['a', 'b'] (some ('a', ['b'])) := by
  let body : Unit → Grammar (fun _ : Unit => Char) Char := fun _ => fail
  have hbehind : (keepLeft anyChar (choice [fail, anyChar])).Ends body ['a', 'b'] (some ('a', ['b'])) :=
    ⟨_, ⟨0, rfl⟩, rfl⟩
  have hfront : (keepLeft (choice [fail, anyChar]) anyChar).Ends body ['a', 'b'] (some ('a', ['b'])) :=
    ⟨_, ⟨0, rfl⟩, rfl⟩
  have hpair : (keepLeft anyChar (orElse fail anyChar)).Ends body ['a', 'b'] (some ('a', ['b'])) :=
    ⟨_, ⟨0, rfl⟩, rfl⟩
  have hpair' : (keepLeft (orElse fail anyChar) anyChar).Ends body ['a', 'b'] (some ('a', ['b'])) :=
    ⟨_, ⟨0, rfl⟩, rfl⟩
  obtain ⟨hafter, hbefore, hafter', hbefore'⟩ :=
    @Sequencing.choice_factors _ _ body _ _ _ (.keepLeft : Sequencing Char Char Char) ['a', 'b']
  exact ⟨body, fail, anyChar, rfl, rfl, hbehind, (hafter anyChar [fail, anyChar] _).mpr (.inl hbehind), hfront,
    hbefore [fail, anyChar] anyChar _ hfront, (hafter' anyChar fail anyChar _).mpr hpair,
    hbefore' fail anyChar anyChar _ hpair'⟩

/-- A choice does not go back to a later alternative for a step behind it. -/
example :
    let body : Unit → Grammar (fun _ : Unit => Unit) Unit := fun _ => fail
    let ps : List (Grammar (fun _ : Unit => Unit) Unit) := [.replace .anyChar (), .replace .rest ()]
    (keepRight (choice ps) eof).Ends body ['a', 'b'] none ∧
      (choice (ps.map fun p => keepRight p eof)).Ends body ['a', 'b'] (some ((), [])) :=
  ⟨⟨_, ⟨0, rfl⟩, rfl⟩, ⟨_, ⟨0, rfl⟩, rfl⟩⟩

end Grammar

end PatternGrammar
