import PatternGrammar.Proofs.Extraction
import PatternGrammar.Proofs.Regex.Caseless

/-!
# Extraction does not see case

A pattern that is compiled with the option that letters match in both cases, and that does not switch this off itself,
takes out of two texts of the same letters what stands at the same places (`Pattern.extract_sameText`).
-/

namespace PatternGrammar

open Regex

/-! ## Pieces of texts of the same letters -/

namespace Regex.SameText

variable {s t : Text}

theorem symm (h : SameText s t) : SameText t s :=
  (h.imp fun _ _ => SameLetter.symm).flip

/-- Texts of the same letters stay so when the same places are cut out of both. -/
theorem cut (h : SameText s t) (start stop : Nat) :
    SameText (s.take start ++ s.drop stop) (t.take start ++ t.drop stop) :=
  List.rel_append (List.forall₂_take start h) (List.forall₂_drop stop h)

theorem groupText? (h : SameText s t) (marks : Marks) (n : Nat) :
    Option.Rel SameText (Pattern.groupText? s marks n) (Pattern.groupText? t marks n) := by
  unfold Pattern.groupText?
  split
  · next start stop _ _ => exact .some (List.forall₂_take (stop - start) (List.forall₂_drop start h))
  · exact .none

theorem groupTexts (h : SameText s t) (marks : Marks) (numbers : List Nat) :
    List.Forall₂ SameText
      ((numbers.filterMap (Pattern.groupText? s marks)).filter fun u => !u.isEmpty)
      ((numbers.filterMap (Pattern.groupText? t marks)).filter fun u => !u.isEmpty) := by
  refine List.rel_filter ?_ (List.rel_filterMap (R := Eq) ?_ (List.forall₂_eq_eq_eq ▸ rfl))
  · -- one of the two is empty just if the other is
    intro u v huv
    cases huv with
    | nil => exact Iff.rfl
    | cons => exact Iff.rfl
  · rintro n _ rfl
    exact h.groupText? marks n

end Regex.SameText

namespace Pattern

variable {config : Config} {pattern query query' : Text} {p : Pattern} {tree : Tree}

/-- The program of a pattern that leaves `i` and `u` on does not see case. -/
theorem caseless_of_compile (hconfig : config.caseInsensitive = true)
    (h : compile config pattern = .ok p) (htree : Tree.ofText pattern = .ok tree)
    (hkeep : KeepCaseless tree.settings) : p.program.Caseless := by
  obtain ⟨tree', e, after, htree', helaborate, hprogram⟩ := exists_elaborate_of_compile h
  obtain rfl : tree' = tree := Except.ok.inj (htree'.symm.trans htree)
  have hflags : config.flags.Caseless := ⟨hconfig, rfl⟩
  rw [hprogram]
  exact Program.caseless_ofExpr (Tree.keeps_caseless.elaborate helaborate hflags hkeep).1 _

/-- Where something is taken out of a text, it is taken out of a text of the same letters too. -/
theorem exists_extract_of_sameText (hp : p.program.Caseless) (hquery : SameText query query')
    {x : Extraction} (hx : p.extract query = some x) :
    ∃ x' start stop, p.extract query' = some x' ∧
      p.span? query = some (start, stop) ∧ p.span? query' = some (start, stop) ∧
      x.stripped = query.take start ++ query.drop stop ∧
      x'.stripped = query'.take start ++ query'.drop stop ∧
      SameText x.stripped x'.stripped ∧ List.Forall₂ SameText x.groups x'.groups := by
  obtain ⟨marks, start, stop, hsearch, hstart, hstop, hstripped, hgroups⟩ := extract_eq_some.mp hx
  -- the same marks are found, so both texts are cut in the same way
  have hsearch' : p.program.search? query' = some marks :=
    (Program.search_same hp hquery).symm.trans hsearch
  let x' : Extraction := ⟨query'.take start ++ query'.drop stop,
    ((List.range' 1 p.program.groups).filterMap (groupText? query' marks)).filter fun t => !t.isEmpty⟩
  have hx' : p.extract query' = some x' :=
    extract_eq_some.mpr ⟨marks, start, stop, hsearch', hstart, hstop, rfl, rfl⟩
  refine ⟨x', start, stop, hx', ?_, ?_, hstripped, rfl, ?_, ?_⟩
  · simp only [span?, hsearch, Option.bind_some, hstart, hstop, Option.map_some]
  · simp only [span?, hsearch', Option.bind_some, hstart, hstop, Option.map_some]
  · rw [hstripped]
    exact hquery.cut start stop
  · rw [hgroups]
    exact hquery.groupTexts marks _

/-- Two texts of the same letters are cut at the same places, or both are left alone, and what is taken out and what is
left are of the same letters again. -/
theorem extract_sameText (hconfig : config.caseInsensitive = true) (h : compile config pattern = .ok p)
    (htree : Tree.ofText pattern = .ok tree) (hkeep : KeepCaseless tree.settings) (hquery : SameText query query') :
    (p.extract query = none ↔ p.extract query' = none) ∧
    ∀ x, p.extract query = some x → ∃ x' start stop, p.extract query' = some x' ∧
      p.span? query = some (start, stop) ∧ p.span? query' = some (start, stop) ∧
      x.stripped = query.take start ++ query.drop stop ∧
      x'.stripped = query'.take start ++ query'.drop stop ∧
      SameText x.stripped x'.stripped ∧ List.Forall₂ SameText x.groups x'.groups := by
  have hp := caseless_of_compile hconfig h htree hkeep
  have hnone {s t : Text} (hst : SameText s t) (hs : p.extract s = none) : p.extract t = none := by
    rw [Option.eq_none_iff_forall_ne_some]
    intro x hx
    obtain ⟨x', -, -, hx', -⟩ := exists_extract_of_sameText hp hst.symm hx
    rw [hs] at hx'
    contradiction
  exact ⟨⟨hnone hquery, hnone hquery.symm⟩, fun x => exists_extract_of_sameText hp hquery⟩

/-- The Kelvin sign is a letter `k` and a word character: behind a word boundary it is taken out as `K` is, together
with the letter after it. -/
theorem extract_sameText_kelvin : ∃ p tree x',
    compile .standard ['\\', 'b', '(', 'k', '[', 'a', '-', 'z', ']', ')'] = .ok p ∧
    Tree.ofText ['\\', 'b', '(', 'k', '[', 'a', '-', 'z', ']', ')'] = .ok tree ∧ KeepCaseless tree.settings ∧
    SameText ['x', '-', 'K', 'z'] ['X', '-', '\u212A', 'Z'] ∧
    p.extract ['x', '-', 'K', 'z'] = some ⟨['x', '-'], [['K', 'z']]⟩ ∧
    p.extract ['X', '-', '\u212A', 'Z'] = some x' ∧ p.span? ['X', '-', '\u212A', 'Z'] = some (2, 4) ∧
    x'.stripped = ['X', '-'] ∧ List.Forall₂ SameText [['K', 'z']] x'.groups := by
  obtain ⟨p, hp, hx, hspan⟩ : ∃ p,
      compile .standard ['\\', 'b', '(', 'k', '[', 'a', '-', 'z', ']', ')'] = .ok p ∧
      p.extract ['x', '-', 'K', 'z'] = some ⟨['x', '-'], [['K', 'z']]⟩ ∧
      p.span? ['x', '-', 'K', 'z'] = some (2, 4) := ⟨_, by rfl, by rfl, by rfl⟩
  obtain ⟨tree, htree, hkeep⟩ :
      ∃ tree, Tree.ofText ['\\', 'b', '(', 'k', '[', 'a', '-', 'z', ']', ')'] = .ok tree ∧
        KeepCaseless tree.settings := ⟨_, rfl, by decide, by decide⟩
  have hquery : SameText ['x', '-', 'K', 'z'] ['X', '-', '\u212A', 'Z'] :=
    .cons (by unfold SameLetter; decide) (.cons rfl (.cons (by unfold SameLetter; decide)
      (.cons (by unfold SameLetter; decide) .nil)))
  obtain ⟨-, hsome⟩ := extract_sameText rfl hp htree hkeep hquery
  obtain ⟨x', start, stop, hx', hfound, hfound', -, hstripped, -, hgroups⟩ := hsome _ hx
  obtain ⟨rfl, rfl⟩ := Prod.mk.inj (Option.some.inj (hspan.symm.trans hfound))
  exact ⟨p, tree, x', hp, htree, hkeep, hquery, hx, hx', hfound', hstripped, hgroups⟩

end Pattern

end PatternGrammar
