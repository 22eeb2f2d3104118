import PatternGrammar.Proofs.Grammar.Steps

/-!
# Looking ahead

The second of the two parsers that `keepLeft` runs in a row decides whether the first one succeeds, and no more: what it
takes is given back. Any number of parsers behind a first one therefore look at the same text, so that neither their
order matters nor how often each of them is run (`Grammar.lookAhead_gives_back`).
-/

namespace PatternGrammar

namespace Run

variable {ν α β γ : Type}

theorem mapResult_comp_mapResult (f : β × Text → γ × Text) (g : α × Text → β × Text) :
    (mapResult f ∘ mapResult g : Run ν α → Run ν γ) = mapResult (f ∘ g) := by
  funext r
  simp only [Function.comp_apply, mapResult, Option.map_map]

theorem andThen_map_mapResult {o : Option (Run ν α)} (next : α → Text → Option (Run ν β)) (f : β × Text → γ × Text) :
    (o.bind fun r => r.andThen next).map (mapResult f) =
      o.bind fun r => r.andThen fun a rest => (next a rest).map (mapResult f) := by
  rw [← andThen_mapResult, andThen_andThen]
  simp only [andThen_mapResult]

end Run

namespace Grammar

variable {ν : Type} {τ : ν → Type} {body : (name : ν) → Grammar τ (τ name)} {α β γ δ : Type} {input : Text}

/-- A parser with others behind it that look at what it leaves. -/
def lookAhead (p : Grammar τ α) (qs : List (Σ β : Type, Grammar τ β)) : Grammar τ α :=
  qs.foldl (fun g q => keepLeft g q.2) p

example (p : Grammar τ α) (q : Grammar τ β) (s : Grammar τ γ) :
    lookAhead p [⟨β, q⟩, ⟨γ, s⟩] = keepLeft (keepLeft p q) s := rfl

/-! ## One parser behind another -/

/-- A look-ahead fails with its parser, and else with what looks behind it. -/
theorem ends_keepLeft {p : Grammar τ α} {q : Grammar τ β} {x : Option (α × Text)} :
    (keepLeft p q).Ends body input x ↔
      p.Ends body input none ∧ x = none ∨
        ∃ a rest y, p.Ends body input (some (a, rest)) ∧ q.Ends body rest y ∧ x = y.map fun _ => (a, rest) :=
  Sequencing.keepLeft.ends_of (p := p) (q := q)

/-- A look-ahead succeeds if both parsers do, and leaves what the first one left. -/
theorem ends_keepLeft_some {p : Grammar τ α} {q : Grammar τ β} {x : α × Text} :
    (keepLeft p q).Ends body input (some x) ↔
      p.Ends body input (some x) ∧ ∃ y, q.Ends body x.2 (some y) := by
  rw [ends_keepLeft]
  constructor
  · rintro (⟨-, hnone⟩ | ⟨a, rest, y, hp, hq, hx⟩)
    · contradiction
    · obtain ⟨z, rfl, rfl⟩ := Option.map_eq_some_iff.mp hx.symm
      exact ⟨hp, z, hq⟩
  · rintro ⟨hp, y, hq⟩
    exact .inr ⟨x.1, x.2, some y, hp, hq, rfl⟩

theorem exists_ends_keepLeft {p : Grammar τ α} {q : Grammar τ β} (hp : ∃ x, p.Ends body input x)
    (hq : ∀ x, p.Ends body input (some x) → ∃ y, q.Ends body x.2 y) : ∃ x, (keepLeft p q).Ends body input x := by
  obtain ⟨x, hx⟩ := hp
  cases x with
  | none => exact ⟨none, ends_keepLeft.mpr (.inl ⟨hx, rfl⟩)⟩
  | some x =>
    obtain ⟨y, hy⟩ := hq x hx
    exact ⟨_, ends_keepLeft.mpr (.inr ⟨x.1, x.2, y, hx, hy, rfl⟩)⟩

/-- Behind a parser to which all is given back, two parsers in a row are only run. -/
theorem runWith_keepLeft_of (S : Sequencing β γ δ) (unfold : (name : ν) → Text → Option (Run ν (τ name)))
    (p : Grammar τ α) (q : Grammar τ β) (s : Grammar τ γ) (input : Text) :
    (keepLeft p (S.of q s)).runWith unfold input =
      (p.runWith unfold input).bind fun r => r.andThen fun a rest =>
        (q.runWith unfold rest).bind fun r => r.andThen fun _ mid =>
          (s.runWith unfold mid).map (.mapResult fun _ => (a, rest)) := by
  refine (Sequencing.keepLeft.runWith_of unfold p (S.of q s) input).trans ?_
  simp only [S.runWith_of, Run.andThen_map_mapResult, Option.map_map, Run.mapResult_comp_mapResult]
  -- the result of the two is not looked at
  rfl

/-- What stands behind a look-ahead may look by itself or together with others. -/
theorem gives_keepLeft_of (S : Sequencing β γ δ) {p : Grammar τ α} {q : Grammar τ β} {s : Grammar τ γ} {r : Run ν α} :
    (keepLeft p (S.of q s)).Gives body input r ↔ (keepLeft p (keepLeft q s)).Gives body input r := by
  have hkeepLeft (depth : Nat) :
      (keepLeft p (S.of q s)).runDepth body depth input = (keepLeft p (keepLeft q s)).runDepth body depth input :=
    (runWith_keepLeft_of S _ p q s input).trans (runWith_keepLeft_of .keepLeft _ p q s input).symm
  simp only [Gives, hkeepLeft]

/-! ## Any number of parsers behind one -/

/-- Grammars that end on a text, and succeed alike there, fail alike too. -/
theorem ends_congr {g g' : Grammar τ α} (hg : ∃ x, g.Ends body input x) (hg' : ∃ x, g'.Ends body input x)
    (h : ∀ x, g.Ends body input (some x) ↔ g'.Ends body input (some x)) (x : Option (α × Text)) :
    g.Ends body input x ↔ g'.Ends body input x := by
  obtain ⟨y, hy⟩ := hg
  obtain ⟨y', hy'⟩ := hg'
  have heq : y = y' := by
    cases y with
    | some y => exact ((h y).mp hy).unique hy'
    | none =>
      cases y' with
      | some y' => exact hy.unique ((h y').mpr hy')
      | none => rfl
  subst heq
  constructor
  · intro hx
    exact hx.unique hy ▸ hy'
  · intro hx
    exact hx.unique hy' ▸ hy

/-- A chain of look-aheads succeeds if each of them does on what the first parser left, whatever their order. -/
theorem ends_lookAhead_some {p : Grammar τ α} {qs : List (Σ β : Type, Grammar τ β)} {x : α × Text} :
    (lookAhead p qs).Ends body input (some x) ↔
      p.Ends body input (some x) ∧ ∀ q ∈ qs, ∃ y, q.2.Ends body x.2 (some y) := by
  induction qs generalizing p with
  | nil => simp [lookAhead]
  | cons q qs ih =>
    rw [lookAhead, List.foldl_cons, ← lookAhead, ih, ends_keepLeft_some, List.forall_mem_cons, and_assoc]

theorem exists_ends_lookAhead {p : Grammar τ α} {qs : List (Σ β : Type, Grammar τ β)} (hp : ∃ x, p.Ends body input x)
    (hqs : ∀ x, p.Ends body input (some x) → ∀ q ∈ qs, ∃ y, q.2.Ends body x.2 y) :
    ∃ x, (lookAhead p qs).Ends body input x := by
  induction qs generalizing p with
  | nil => exact hp
  | cons q qs ih =>
    refine ih (exists_ends_keepLeft hp fun x hx => hqs x hx q List.mem_cons_self) fun x hx s hs => ?_
    -- what is left is left by the first parser still
    exact hqs x (ends_keepLeft_some.mp hx).1 s (List.mem_cons_of_mem q hs)

/-- Only which parsers look ahead matters, and not in which order they do or how often. -/
theorem ends_lookAhead_congr {p : Grammar τ α} {qs qs' : List (Σ β : Type, Grammar τ β)} (hp : ∃ x, p.Ends body input x)
    (hqs : ∀ x, p.Ends body input (some x) → ∀ q ∈ qs, ∃ y, q.2.Ends body x.2 y) (hmem : ∀ q, q ∈ qs' ↔ q ∈ qs)
    (x : Option (α × Text)) : (lookAhead p qs').Ends body input x ↔ (lookAhead p qs).Ends body input x := by
  have hqs' : ∀ x, p.Ends body input (some x) → ∀ q ∈ qs', ∃ y, q.2.Ends body x.2 y :=
    fun x hx q hq => hqs x hx q ((hmem q).mp hq)
  refine ends_congr (exists_ends_lookAhead hp hqs') (exists_ends_lookAhead hp hqs) (fun y => ?_) x
  simp only [ends_lookAhead_some, hmem]

/-- Parsers that look ahead behind a first one succeed together if it does and each of them does on what it leaves, and
then they give its value and leave what it leaves. Where all end, their order and how often each of them stands there
make no difference. A parser that looks ahead itself may as well take what the one behind it takes. -/
theorem lookAhead_gives_back (p : Grammar τ α) (qs : List (Σ β : Type, Grammar τ β)) (input : Text) :
    (∀ x, (lookAhead p qs).Ends body input (some x) ↔
      p.Ends body input (some x) ∧ ∀ q ∈ qs, ∃ y, q.2.Ends body x.2 (some y)) ∧
      ((∃ x, p.Ends body input x) →
        (∀ x, p.Ends body input (some x) → ∀ q ∈ qs, ∃ y, q.2.Ends body x.2 y) →
        (∃ x, (lookAhead p qs).Ends body input x) ∧
          ∀ qs', (∀ q, q ∈ qs' ↔ q ∈ qs) → ∀ x,
            (lookAhead p qs').Ends body input x ↔ (lookAhead p qs).Ends body input x) ∧
      (∀ {β γ : Type} (q : Grammar τ β) (s : Grammar τ γ) (r : Run ν α),
        (keepLeft p (keepRight q s)).Gives body input r ↔ (keepLeft p (keepLeft q s)).Gives body input r) ∧
      ∀ {β γ : Type} (q : Grammar τ β) (s : Grammar τ γ) (r : Run ν α),
        (keepLeft p (tuple2 q s)).Gives body input r ↔ (keepLeft p (keepLeft q s)).Gives body input r := by
  refine ⟨fun x => ends_lookAhead_some, fun hp hqs => ⟨exists_ends_lookAhead hp hqs, fun qs' hmem => ?_⟩,
    fun q s r => ?_, fun q s r => ?_⟩
  · exact ends_lookAhead_congr hp hqs hmem
  · exact gives_keepLeft_of .keepRight (q := q) (s := s)
  · exact gives_keepLeft_of .tuple2 (q := q) (s := s)

/-- Two parsers look at the character that is left: one of them takes it, and the other one all the text. -/
theorem lookAhead_gives_back_letters :
    ∃ (body : Unit → Grammar (fun _ : Unit => Char) Char) (qs : List (Σ β : Type, Grammar (fun _ : Unit => Char) β)),
      qs = [⟨Char, anyChar⟩, ⟨Text, rest⟩] ∧
        (lookAhead anyChar qs).Ends body ['a', 'b'] (some ('a', ['b'])) ∧
        (lookAhead anyChar (qs.reverse ++ qs)).Ends body ['a', 'b'] (some ('a', ['b'])) := by
  let body : Unit → Grammar (fun _ : Unit => Char) Char := fun _ => fail
  let qs : List (Σ β : Type, Grammar (fun _ : Unit => Char) β) := [⟨Char, anyChar⟩, ⟨Text, rest⟩]
  have hfirst : (anyChar : Grammar (fun _ : Unit => Char) Char).Ends body ['a', 'b'] (some ('a', ['b'])) :=
    ⟨_, ⟨0, rfl⟩, rfl⟩
  have hqs : ∀ q ∈ qs, ∃ y, q.2.Ends body ['b'] (some y) := by
    simp only [qs, List.forall_mem_cons, List.not_mem_nil, false_implies, implies_true, and_true]
    exact ⟨⟨('b', []), _, ⟨0, rfl⟩, rfl⟩, ⟨(['b'], []), _, ⟨0, rfl⟩, rfl⟩⟩
  obtain ⟨hsome, horder, -⟩ := @lookAhead_gives_back _ _ body _ anyChar qs ['a', 'b']
  have hlooks : (lookAhead anyChar qs).Ends body ['a', 'b'] (some ('a', ['b'])) := (hsome _).mpr ⟨hfirst, hqs⟩
  have hends : ∀ x, (anyChar : Grammar (fun _ : Unit => Char) Char).Ends body ['a', 'b'] (some x) →
      ∀ q ∈ qs, ∃ y, q.2.Ends body x.2 y := by
    intro x hx q hq
    obtain rfl := Option.some.inj (hx.unique hfirst)
    obtain ⟨y, hy⟩ := hqs q hq
    exact ⟨some y, hy⟩
  refine ⟨body, qs, rfl, hlooks, ?_⟩
  refine ((horder ⟨_, hfirst⟩ hends).2 (qs.reverse ++ qs) (fun q => ?_) _).mpr hlooks
  rw [List.mem_append, List.mem_reverse, or_self]

end Grammar

end PatternGrammar
