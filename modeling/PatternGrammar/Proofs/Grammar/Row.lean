import PatternGrammar.Proofs.Grammar.Laws
import PatternGrammar.Proofs.Grammar.Steps

/-!
# Functions of several values

A function of any number of values is applied to those of parsers by mapping it over the first one, and applying what
that gives to the others in turn. This runs the parsers in a row, and gives the function's value at theirs
(`Grammar.applyRow_gives`).
-/

namespace PatternGrammar

@[reducible] def Values : List Type → Type
  | [] => Unit
  | α :: αs => α × Values αs

/-- Functions that take values of the types of a list, one after the other. -/
@[reducible] def Curried : List Type → Type → Type
  | [], β => β
  | α :: αs, β => α → Curried αs β

def Curried.at : {αs : List Type} → {β : Type} → Curried αs β → Values αs → β
  | [], _, b, _ => b
  | _ :: _, _, f, (a, as) => Curried.at (f a) as

namespace Grammar

variable {ν : Type} {τ : ν → Type} {body : (name : ν) → Grammar τ (τ name)} {α β γ : Type} {αs : List Type}
  {input : Text}

/-- Parsers in a row, with values of the types of a list. -/
inductive Row (τ : ν → Type) : List Type → Type 1 where
  | nil : Row τ []
  | cons {α : Type} {αs : List Type} (p : Grammar τ α) (ps : Row τ αs) : Row τ (α :: αs)

/-- What parsers in a row give: each one is run on what the one before it left, up to the first one that fails. -/
inductive Row.Gives (body : (name : ν) → Grammar τ (τ name)) :
    {αs : List Type} → Row τ αs → Text → Run ν (Values αs) → Prop where
  | nil {input : Text} : Gives body .nil input (.success () input)
  | fails {α : Type} {αs : List Type} {p : Grammar τ α} {ps : Row τ αs} {input : Text} {s : Run ν α}
    (hp : p.Gives body input s) (houtcome : s.outcome = none) : Gives body (.cons p ps) input ⟨none, s.events⟩
  | succeeds {α : Type} {αs : List Type} {p : Grammar τ α} {ps : Row τ αs} {input rest : Text} {s : Run ν α}
    {a : α} {t : Run ν (Values αs)} (hp : p.Gives body input s) (houtcome : s.outcome = some (a, rest))
    (hps : Gives body ps rest t) : Gives body (.cons p ps) input ((t.map fun as => (a, as)).after s.events)

/-- Applies the value of a parser to those of others in turn. -/
def applyRow : {αs : List Type} → Grammar τ (Curried αs β) → Row τ αs → Grammar τ β
  | _, g, .nil => g
  | _, g, .cons p ps => applyRow (.apply g p) ps

example {α β γ δ : Type} (f : α → β → γ → δ) (p : Grammar τ α) (q : Grammar τ β) (s : Grammar τ γ) :
    applyRow (map (f : Curried [α, β, γ] δ) p) (.cons q (.cons s .nil)) = apply (apply (map f p) q) s := rfl

theorem Row.gives_nil {r : Run ν (Values [])} : (Row.nil : Row τ []).Gives body input r ↔ r = .success () input := by
  constructor
  · intro h
    cases h
    rfl
  · rintro rfl
    exact .nil

/-- The first parser of a row is run on the text, the others on what it leaves. -/
theorem Row.gives_cons {p : Grammar τ α} {ps : Row τ αs} {r : Run ν (Values (α :: αs))} :
    (Row.cons p ps).Gives body input r ↔
      ∃ s, p.Gives body input s ∧
        s.Then (fun a rest t => ∃ u, ps.Gives body rest u ∧ t = u.map fun as => (a, as)) r := by
  constructor
  · intro h
    cases h with
    | fails hp houtcome => exact ⟨_, hp, .fails houtcome⟩
    | succeeds hp houtcome hps => exact ⟨_, hp, .goesOn houtcome ⟨_, hps, rfl⟩⟩
  · rintro ⟨s, hp, h⟩
    cases h with
    | fails houtcome => exact .fails hp houtcome
    | goesOn houtcome ht =>
      obtain ⟨u, hps, rfl⟩ := ht
      exact .succeeds hp houtcome hps

/-- What a function gives at the values of parsers in a row. -/
def Row.Fills (body : (name : ν) → Grammar τ (τ name)) (ps : Row τ αs) (f : Curried αs β) (input : Text)
    (r : Run ν β) : Prop :=
  ∃ s, ps.Gives body input s ∧ r = s.map f.at

theorem Row.fills_nil {b : β} {r : Run ν β} : (Row.nil : Row τ []).Fills body b input r ↔ r = .success b input := by
  simp only [Fills, gives_nil, exists_eq_left]
  rfl

/-- The first value goes into the function, and the others into what that gives. -/
theorem Row.fills_cons {f : Curried (α :: αs) β} {p : Grammar τ α} {ps : Row τ αs} {r : Run ν β} :
    (Row.cons p ps).Fills body f input r ↔
      ∃ s, (map f p).Gives body input s ∧ s.Then (ps.Fills body) r := by
  have hfills (a : α) (rest : Text) (t : Run ν β) :
      (∃ u, (∃ v, ps.Gives body rest v ∧ u = v.map fun as => (a, as)) ∧ t = u.map f.at) ↔
        ps.Fills body (f a) rest t := by
    constructor
    · rintro ⟨_, ⟨v, hv, rfl⟩, rfl⟩
      exact ⟨v, hv, Run.map_map _ _ v⟩
    · rintro ⟨v, hv, rfl⟩
      exact ⟨_, ⟨v, hv, rfl⟩, (Run.map_map f.at (fun as => (a, as)) v).symm⟩
  constructor
  · rintro ⟨w, hw, hr⟩
    obtain ⟨s, hp, hthen⟩ := gives_cons.mp hw
    refine ⟨s.map f, gives_map.mpr ⟨s, hp, rfl⟩, Run.map_then.mpr ?_⟩
    exact (Run.exists_then_map.mp ⟨w, hthen, hr⟩).imp fun a rest t => (hfills a rest t).mp
  · rintro ⟨s, hs, hthen⟩
    obtain ⟨s, hp, rfl⟩ := gives_map.mp hs
    have hvalues := (Run.map_then.mp hthen).imp fun a rest t => (hfills a rest t).mpr
    obtain ⟨w, hw, hr⟩ := Run.exists_then_map.mpr hvalues
    exact ⟨w, gives_cons.mpr ⟨s, hp, hw⟩, hr⟩

/-- Applying in turn is running the function and then the row, which fills its arguments. -/
theorem gives_applyRow {g : Grammar τ (Curried αs β)} {ps : Row τ αs} {r : Run ν β} :
    (applyRow g ps).Gives body input r ↔ ∃ s, g.Gives body input s ∧ s.Then (ps.Fills body) r := by
  induction ps generalizing r with
  | nil =>
    -- no value is missing: what is given is the value itself
    have hself (s : Run ν β) : s.Then ((Row.nil : Row τ []).Fills body) r ↔ r = s :=
      (Run.then_congr fun b rest t => Row.fills_nil).trans Run.then_success
    simp only [hself, exists_eq_right']
    rfl
  | cons p ps ih =>
    rw [applyRow, ih]
    constructor
    · rintro ⟨s, hs, hthen⟩
      obtain ⟨s', hg, hs'⟩ := gives_apply.mp hs
      exact ⟨s', hg, (Run.exists_then_then.mp ⟨s, hs', hthen⟩).imp fun f rest t => Row.fills_cons.mpr⟩
    · rintro ⟨s', hg, hthen⟩
      obtain ⟨s, hs', hthen⟩ := Run.exists_then_then.mpr (hthen.imp fun f rest t => Row.fills_cons.mp)
      exact ⟨s, gives_apply.mpr ⟨s', hg, hs'⟩, hthen⟩

/-- Applying a function to the values of two parsers is mapping it over the pair of them. -/
theorem gives_apply_map {f : α → β → γ} {p : Grammar τ α} {q : Grammar τ β} {r : Run ν γ} :
    (apply (map f p) q).Gives body input r ↔ (map (fun (a, b) => f a b) (tuple2 p q)).Gives body input r := by
  simp only [Gives, runDepth, runWith, Option.bind_eq_bind, Run.map_andThen, Run.andThen_map, Option.map_map,
    Run.map_comp_map]

/-- A curried function applied in turn gives what the function of the triple gives. -/
theorem gives_apply_apply_map {δ : Type} {f : α → β → γ → δ} {p : Grammar τ α} {q : Grammar τ β}
    {s : Grammar τ γ} {r : Run ν δ} :
    (apply (apply (map f p) q) s).Gives body input r ↔
      (map (fun (a, b, c) => f a b c) (tuple3 p q s)).Gives body input r := by
  simp only [Gives, runDepth, runWith, Option.bind_eq_bind, Run.map_andThen, Run.andThen_map, Run.andThen_andThen,
    Option.map_map, Run.map_comp_map]

/-- A function that is mapped over a parser and applied to the values of others gives its value at those of all, where
all succeed, each on what the one before it left. Where one fails the whole does, and those behind it are not run. The
events are those of the parsers in a row. For two and three parsers it is the same to map the function over a tuple. -/
theorem applyRow_gives (f : Curried (α :: αs) β) (p : Grammar τ α) (ps : Row τ αs) (input : Text) :
    (∀ r, (applyRow (.map f p) ps).Gives body input r ↔
      ∃ s, (Row.cons p ps).Gives body input s ∧ r = s.map f.at) ∧
      (∀ {α β γ : Type} (f : α → β → γ) (p : Grammar τ α) (q : Grammar τ β) (r : Run ν γ),
        (apply (map f p) q).Gives body input r ↔ (map (fun (a, b) => f a b) (tuple2 p q)).Gives body input r) ∧
      ∀ {α β γ δ : Type} (f : α → β → γ → δ) (p : Grammar τ α) (q : Grammar τ β) (s : Grammar τ γ) (r : Run ν δ),
        (apply (apply (map f p) q) s).Gives body input r ↔
          (map (fun (a, b, c) => f a b c) (tuple3 p q s)).Gives body input r := by
  refine ⟨fun r => ?_, fun f p q r => gives_apply_map, fun f p q s r => gives_apply_apply_map⟩
  rw [gives_applyRow, ← Row.fills_cons, Row.Fills]

end Grammar

end PatternGrammar
