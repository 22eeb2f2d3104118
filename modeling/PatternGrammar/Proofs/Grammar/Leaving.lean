import PatternGrammar.Proofs.Grammar.Invariant
import PatternGrammar.Proofs.Grammar.Visit

/-!
# What is left of a text

A parser runs others on what it has left of its text, and leaves a part of what they leave. So a relation that patterns
and functions keep between the text they leave and the one they are run on is kept by all grammars, and holds between a
text and those that others are run on meanwhile (`Grammar.Visits.related`).
-/

namespace PatternGrammar

namespace Parts

variable {ν : Type} {parts : Parts ν} {R : Text → Text → Prop}

/-- What is left is related to the text that a parser was run on. -/
def Leaving (R : Text → Text → Prop) (input : Text) (left : Option Text) (_ : List (Event ν)) : Prop :=
  ∀ rest, left = some rest → R rest input

/-- Patterns and functions of some parts leave texts that are related to the ones they were run on, and the relation
goes through several steps. -/
structure Leave (parts : Parts ν) (R : Text → Text → Prop) : Prop where
  refl (text : Text) : R text text
  trans {s t u : Text} (hst : R s t) (htu : R t u) : R s u
  pattern {p : Pattern} {input : Text} {x : Extraction} (hp : parts.pattern p)
    (hx : p.extract input = some x) : R x.stripped input
  function {f : Text → Option Text} {input rest : Text} (hf : parts.function f)
    (hrest : f input = some rest) : R rest input

/-- A relation between texts that parts leave is an invariant of their runs. -/
theorem Leave.keep (hR : parts.Leave R) : parts.Keep (Leaving R) where
  found hp hx rest hrest := by
    obtain rfl := Option.some.inj hrest
    exact hR.pattern hp hx
  missed _ _ _ hrest := nomatch hrest
  function f input hf rest hrest := hR.function hf hrest
  stay input rest hrest := Option.some.inj hrest ▸ hR.refl input
  sequence h h' rest hrest := hR.trans (h' rest hrest) (h _ rfl)
  back _ rest hrest := Option.some.inj hrest ▸ hR.refl _
  orElse _ _ h' := h'
  alternative _ _ _ h' := h'
  lastAlternative _ _ h := h
  noAlternative _ _ _ hrest := nomatch hrest
  unfolded _ h := h
  probed _ h := h

end Parts

namespace Grammar

variable {ν : Type} {τ : ν → Type} {body : (name : ν) → Grammar τ (τ name)} {parts : Parts ν}
  {R : Text → Text → Prop} {α β : Type} {g : Grammar τ α} {g' : Grammar τ β} {input text : Text}

/-- What is run while a grammar runs is built from the same parts. -/
theorem Calls.builtFrom (hcall : Calls body g input g' text)
    (hbody : ∀ name, parts.definition name → (body name).BuiltFrom parts) (hg : g.BuiltFrom parts) :
    g'.BuiltFrom parts := by
  cases hcall with
  | map | replace | behind | probe => exact hg
  | applyLeft | keepRightLeft | keepLeftLeft | tuple2Left | tuple3Left => exact hg.1
  | applyRight | keepRightRight | keepLeftRight | tuple2Right => exact hg.2
  | orElseFirst | tuple3Middle => exact hg.2.1
  | orElseSecond | tuple3Right => exact hg.2.2
  | oneOf i => exact hg.2 i
  | lazy => exact hbody _ hg

/-- Whatever a grammar runs inside is built from the same parts. -/
theorem Visits.builtFrom (hvisit : Visits body g input g' text)
    (hbody : ∀ name, parts.definition name → (body name).BuiltFrom parts) (hg : g.BuiltFrom parts) :
    g'.BuiltFrom parts := by
  induction hvisit with
  | self => exact hg
  | call hcall _ ih => exact ih (hcall.builtFrom hbody hg)

/-- What is left is related to the text that the parser was run on. -/
theorem Leaves.related (hR : parts.Leave R) {rest : Text} (h : g.Leaves body input rest)
    (hbody : ∀ name, parts.definition name → (body name).BuiltFrom parts) (hg : g.BuiltFrom parts) : R rest input := by
  obtain ⟨r, a, hr, houtcome⟩ := h
  have hleft : r.outcome.map (·.2) = some rest := by rw [houtcome, Option.map_some]
  exact hg.holds hbody hR.keep hr rest hleft

/-- The text that a parser is called on is related to that of its caller. -/
theorem Calls.related (hR : parts.Leave R) (hcall : Calls body g input g' text)
    (hbody : ∀ name, parts.definition name → (body name).BuiltFrom parts) (hg : g.BuiltFrom parts) : R text input := by
  cases hcall with
  | map | replace | behind | probe | lazy | oneOf => exact hR.refl input
  | applyLeft | keepRightLeft | keepLeftLeft | tuple2Left | tuple3Left => exact hR.refl input
  | orElseFirst | orElseSecond => exact hR.refl input
  | applyRight hp | keepRightRight hp | keepLeftRight hp | tuple2Right hp | tuple3Middle hp =>
    exact hp.related hR hbody hg.1
  | tuple3Right hp hq => exact hR.trans (hq.related hR hbody hg.2.1) (hp.related hR hbody hg.1)

/-- Whoever is run while a grammar runs is run on a text related to that of the grammar. -/
theorem Visits.related (hR : parts.Leave R) (hvisit : Visits body g input g' text)
    (hbody : ∀ name, parts.definition name → (body name).BuiltFrom parts) (hg : g.BuiltFrom parts) : R text input := by
  induction hvisit with
  | self => exact hR.refl _
  -- what is called is built from the same parts, so the same holds of all that it runs
  | call hcall _ ih => exact hR.trans (ih (hcall.builtFrom hbody hg)) (hcall.related hR hbody hg)

end Grammar

end PatternGrammar
