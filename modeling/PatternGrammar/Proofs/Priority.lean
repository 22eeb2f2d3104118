import Mathlib.Data.List.Basic
import PatternGrammar.Proofs.Extraction
import PatternGrammar.Proofs.Regex.Threads
import PatternGrammar.Proofs.Regex.TreeOrder

/-!
# Priority

Of the ways to match a pattern the first one is taken, from the first place from which there is one
(`Pattern.extract_priority`). The ways are those of a backtracking matcher, in its order, except that a beginning shared
by all branches of an alternation is matched before a branch is preferred.
-/

namespace PatternGrammar.Pattern

open Regex

variable {config : Config} {pattern query : Text} {p : Pattern}

/-- What some groups have captured on a way, in the order of their numbers. Groups that took no part, and those that
have captured nothing, are left out. -/
def captures (query : Text) (groups : Nat) (s : Spot) : List Text :=
  ((List.range' 1 groups).filterMap (groupText? query s.marks)).filter fun t => !t.isEmpty

/-- A pattern takes the first of some ways out of a text, from the first place that has one. -/
structure Prefers (p : Pattern) (query : Text) (groups : Nat) (ways : Ways) : Prop where
  none_iff : p.extract query = none ↔ ∀ i, i ≤ query.length → ways i = []
  first : ∀ i s rest, i ≤ query.length → ways i = s :: rest → (∀ k < i, ways k = []) →
    p.span? query = some (i, s.position) ∧
      p.extract query = some ⟨query.take i ++ query.drop s.position, captures query groups s⟩

/-! ## The program of an expression -/

/-- What the other groups have matched does not depend on the ends of the whole match. -/
theorem groupText?_congr {marks marks' : Marks} {n : Nat} (h : ∀ slot, 2 ≤ slot → marks.last? slot = marks'.last? slot)
    (hn : 1 ≤ n) : groupText? query marks n = groupText? query marks' n := by
  rw [groupText?, groupText?, h (2 * n) (by omega), h (2 * n + 1) (by omega)]

theorem captures_congr {groups : Nat} {s t : Spot} (h : ∀ slot, 2 ≤ slot → s.marks.last? slot = t.marks.last? slot) :
    captures query groups s = captures query groups t := by
  rw [captures, captures]
  congr 1
  exact List.filterMap_congr fun n hn => groupText?_congr h (List.mem_range'_1.mp hn).1

theorem captures_whole {groups i j : Nat} (s : Spot) :
    captures query groups ⟨j, (1, j) :: (s.marks ++ [(0, i)])⟩ = captures query groups s := by
  -- the numbers 0 and 1 belong to the whole match
  refine captures_congr fun slot hslot => ?_
  rw [Marks.last?_cons, if_neg (by omega), Marks.last?_append, Marks.last?_cons, if_neg (by omega)]
  exact Option.or_none

/-- The first way to match an expression is the whole match. -/
theorem last_of_mem_ways {e : Expr} {i : Nat} {s : Spot} (hwf : e.WellFormed) (hs : s ∈ e.ways query i) :
    Marks.last? ((1, s.position) :: (s.marks ++ [(0, i)])) 0 = some i ∧
      Marks.last? ((1, s.position) :: (s.marks ++ [(0, i)])) 1 = some s.position := by
  have hbody := Expr.leads_ways hwf i s [(0, i)] hs
  exact Program.last_of_leads hwf ⟨s.behind [(0, i)], hbody, rfl⟩

/-- A pattern takes the first way to match its expression. -/
theorem prefers_ofExpr {e : Expr} {groups : Nat} (hprogram : p.program = .ofExpr e groups)
    (hwf : e.WellFormed) (hloops : e.LoopsAdvance query) : p.Prefers query groups (e.ways query) := by
  have hyields (i : Nat) (hi : i ≤ query.length) :
      (Program.ofExpr e groups).Yields query 0 i ((e.ways query).capture 0 i).head? :=
    Program.yields_ofExpr hwf hloops hi
  rw [← hprogram] at hyields
  refine ⟨?_, fun i s rest hi hs hfirst => ?_⟩
  · rw [extract_eq_none_iff_search hprogram hwf, Program.search_eq_none_iff hyields]
    simp only [List.head?_eq_none_iff, Ways.capture_eq, List.map_eq_nil_iff]
  · have hsearch : p.program.search? query = some ((1, s.position) :: (s.marks ++ [(0, i)])) := by
      refine Program.search_eq_some (s := ⟨s.position, _⟩) hyields hi ?_ fun k hk => ?_
      · rw [Ways.capture_eq, hs, List.map_cons, List.head?_cons]
      · rw [Ways.capture_eq, hfirst k hk, List.map_nil, List.head?_nil]
    have hmem : s ∈ e.ways query i := hs ▸ List.mem_cons_self
    obtain ⟨hstart, hstop⟩ := last_of_mem_ways hwf hmem
    -- the span and the groups are read off the marks of the way, around which group 0 has put its own
    refine ⟨?_, extract_eq_some.mpr ⟨_, i, s.position, hsearch, hstart, hstop, rfl, ?_⟩⟩
    · simp only [span?, hsearch, Option.bind_some, hstart, hstop, Option.map_some]
    · rw [hprogram, ← captures_whole (i := i) (j := s.position)]
      rfl

/-! ## Patterns -/

/-- Ways that agree have the same first one from every place. -/
theorem Prefers.congr {groups : Nat} {v w : Ways} (h : v.Agrees w) (hw : p.Prefers query groups w) :
    p.Prefers query groups v where
  none_iff := by
    simp only [(h _).eq_nil_iff]
    exact hw.none_iff
  first i s rest hi hs hfirst := by
    have hhead := (h i).head?
    rw [hs, List.head?_cons] at hhead
    cases hwi : w i with
    | nil =>
      rw [hwi] at hhead
      cases hhead
    | cons t rest' =>
      rw [hwi] at hhead
      cases hhead with
      | some hsame =>
        have hall := hw.first i t rest' hi hwi fun k hk => (h k).eq_nil_iff.mp (hfirst k hk)
        rw [hsame.1, captures_congr fun slot _ => hsame.2 slot]
        exact hall

/-- A pattern in which no loop can stand still takes the first way to match out of a text. The ways are those of the
expression that the pattern means; where each beginning that all branches of an alternation share can be matched in one
way at most they are those of the pattern as it is written. -/
theorem extract_priority (h : compile config pattern = .ok p) :
    ∃ tree e after, Tree.ofText pattern = .ok tree ∧
      tree.elaborate ⟨config.flags, 1⟩ = .ok (e, after) ∧
      ∀ query : Text, tree.Everywhere (Tree.Advances query) config.flags 1 →
        p.Prefers query (tree.groups config.flags).length (e.ways query) ∧
        (tree.Everywhere (Tree.BeginsInOneWay query) config.flags 1 →
          p.Prefers query (tree.groups config.flags).length (tree.ways query config.flags 1)) := by
  obtain ⟨tree, e, after, htree, helaborate, hprogram⟩ := exists_elaborate_of_compile h
  have hwf := Tree.wellFormed_of_ofText htree
  have hexpr := (Tree.means_of_elaborate hwf helaborate).wellFormed (Nat.le_refl 1)
  have hgroups : after.nextGroup - 1 = (tree.groups config.flags).length := by
    rw [Tree.scope_of_elaborate hwf helaborate]
    exact Nat.add_sub_cancel_left _ _
  rw [hgroups] at hprogram
  refine ⟨tree, e, after, htree, helaborate, fun query hloops => ?_⟩
  have hprefers := prefers_ofExpr hprogram hexpr
    ((Tree.keeps_loopsAdvance query).elaborate helaborate hwf hloops)
  refine ⟨hprefers, fun hbeginnings => hprefers.congr ?_⟩
  exact (Tree.keeps_ways query).elaborate helaborate hwf (Nat.le_refl 1) hbeginnings

/-- A loop goes back to the first branch in each round, and the group keeps what the last round has captured. -/
theorem extract_priority_rounds : ∃ p tree,
    compile .caseSensitive ['(', 'a', '|', 'a', 'b', ')', '*', 'c'] = .ok p ∧
    Tree.ofText ['(', 'a', '|', 'a', 'b', ')', '*', 'c'] = .ok tree ∧
    p.Prefers ['a', 'b', 'a', 'c'] 1 (tree.ways ['a', 'b', 'a', 'c'] (Config.flags .caseSensitive) 1) ∧
    p.span? ['a', 'b', 'a', 'c'] = some (0, 4) ∧ p.extract ['a', 'b', 'a', 'c'] = some ⟨[], [['a']]⟩ := by
  obtain ⟨p, hp⟩ : ∃ p, compile .caseSensitive ['(', 'a', '|', 'a', 'b', ')', '*', 'c'] = .ok p :=
    ⟨_, by rfl⟩
  obtain ⟨tree, e, after, htree, -, hpriority⟩ := extract_priority hp
  have hways : (Tree.ofText ['(', 'a', '|', 'a', 'b', ')', '*', 'c']).toOption.map
      (fun t => t.ways ['a', 'b', 'a', 'c'] (Config.flags .caseSensitive) 1 0) =
        some [⟨4, [(3, 3), (2, 2), (3, 2), (2, 0)]⟩] := by decide +kernel
  obtain ⟨s₁, s₂, s₃, s₄, s₅, s₆, s₇, s₈, s₉, hshape⟩ : ∃ s₁ s₂ s₃ s₄ s₅ s₆ s₇ s₈ s₉,
      Tree.ofText ['(', 'a', '|', 'a', 'b', ')', '*', 'c'] = .ok (.concat s₁
        [.repetition s₂ 0 none true (.group s₃ .capture (.alternation s₄
          [.literal ⟨s₅, 'a', false⟩, .concat s₆ [.literal ⟨s₇, 'a', false⟩, .literal ⟨s₈, 'b', false⟩]])),
        .literal ⟨s₉, 'c', false⟩]) := ⟨_, _, _, _, _, _, _, _, _, by rfl⟩
  obtain rfl := Except.ok.inj (htree.symm.trans hshape)
  rw [hshape] at hways
  obtain ⟨-, hordered⟩ := hpriority ['a', 'b', 'a', 'c'] (by
    -- each branch reads something
    simp only [Tree.Everywhere, Tree.AllEverywhere, Tree.Advances, true_and, and_true]
    intro i _ h
    simp only [Tree.Matches, Tree.MatchesSome, Tree.MatchesRow, ReadsOne] at h
    rcases h with ⟨h, -⟩ | ⟨k, ⟨hk, -⟩, l, ⟨hl, -⟩, h⟩ | h <;> omega)
  have hprefers := hordered (by
    -- each branch is one piece, so nothing is shared
    simp only [Tree.Everywhere, Tree.AllEverywhere, Tree.BeginsInOneWay, true_and, and_true]
    intro es after hes i
    obtain ⟨rfl, -⟩ := Prod.mk.inj (Except.ok.inj hes)
    exact Nat.le_refl 1)
  obtain ⟨hspan, hextract⟩ := hprefers.first 0 _ [] (Nat.zero_le 4) (Option.some.inj hways) (by omega)
  exact ⟨p, _, hp, htree, hprefers, hspan, hextract⟩

/-- The branches of an alternation are not always preferred in their order: a lazy run before either of two letters
stops at the first of them. -/
theorem not_extract_priority_lazy :
    ¬ ∀ (config : Config) (pattern : Text) (p : Pattern) (tree : Tree), compile config pattern = .ok p →
      Tree.ofText pattern = .ok tree → ∀ query : Text,
        tree.Everywhere (Tree.Advances query) config.flags 1 →
          p.Prefers query (tree.groups config.flags).length (tree.ways query config.flags 1) := by
  intro h
  have hways : (Tree.ofText ['a', '*', '?', 'b', '|', 'a', '*', '?', 'a']).toOption.map
      (fun t => t.ways ['a', 'b'] (Config.flags .standard) 1 0) = some [⟨2, []⟩, ⟨1, []⟩] := by
    decide +kernel
  have htaken : (PatternGrammar.extract ['a', '*', '?', 'b', '|', 'a', '*', '?', 'a']
      ['a', 'b']).toOption = some (some ⟨['b'], []⟩) := by
    decide +kernel
  obtain ⟨s₁, s₂, s₃, s₄, s₅, s₆, s₇, s₈, s₉, hshape⟩ : ∃ s₁ s₂ s₃ s₄ s₅ s₆ s₇ s₈ s₉,
      Tree.ofText ['a', '*', '?', 'b', '|', 'a', '*', '?', 'a'] = .ok (.alternation s₁
        [.concat s₂ [.repetition s₃ 0 none false (.literal ⟨s₄, 'a', false⟩), .literal ⟨s₅, 'b', false⟩],
         .concat s₆ [.repetition s₇ 0 none false (.literal ⟨s₈, 'a', false⟩), .literal ⟨s₉, 'a', false⟩]]) :=
    ⟨_, _, _, _, _, _, _, _, _, by rfl⟩
  rw [hshape] at hways
  rw [PatternGrammar.extract] at htaken
  cases hp : compile .standard ['a', '*', '?', 'b', '|', 'a', '*', '?', 'a'] with
  | error fault =>
    rw [hp] at htaken
    contradiction
  | ok p =>
    rw [hp] at htaken
    have hprefers := h _ _ p _ hp hshape ['a', 'b'] (by
      simp only [Tree.Everywhere, Tree.AllEverywhere, Tree.Advances, true_and, and_true]
      constructor <;> rintro i - ⟨h, -⟩ <;> omega)
    -- the first branch can be matched after one round of its run
    obtain ⟨-, hextract⟩ := hprefers.first 0 _ _ (Nat.zero_le 2) (Option.some.inj hways) (by omega)
    have hboth := (Option.some.inj htaken).symm.trans hextract
    have hstripped : (['b'] : Text) = [] := congrArg Extraction.stripped (Option.some.inj hboth)
    exact List.cons_ne_nil _ _ hstripped

end PatternGrammar.Pattern
