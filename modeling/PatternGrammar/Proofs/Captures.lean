import Mathlib.Data.List.Forall2
import PatternGrammar.Proofs.Extraction
import PatternGrammar.Proofs.Regex.Groups

/-!
# What groups capture

The groups of an extraction are pieces of the text that was taken out. They belong to different groups of the pattern,
in the order of the pattern, and each is matched by its group where it stands (`Pattern.extract_groups`).
-/

namespace PatternGrammar

open Regex

/-- What is kept of some elements under a partial function comes from a part of them, in order. -/
theorem exists_sublist_filterMap {α β : Type} (f : α → Option β) (l : List α) :
    ∃ ns, ns.Sublist l ∧ List.Forall₂ (fun n b => f n = some b) ns (l.filterMap f) := by
  induction l with
  | nil => exact ⟨[], .slnil, .nil⟩
  | cons a l ih =>
    obtain ⟨ns, hsub, hall⟩ := ih
    cases ha : f a with
    | none =>
      rw [List.filterMap_cons_none ha]
      exact ⟨ns, hsub.cons a, hall⟩
    | some b =>
      rw [List.filterMap_cons_some ha]
      exact ⟨a :: ns, hsub.cons_cons a, .cons ha hall⟩

namespace Regex.Program

variable {e : Expr} {groups : Nat} {text : Text} {marks : Marks}

/-- The positions that a search notes last for a group are the ends of a match of its body within the whole match. -/
theorem captured_of_search (hwf : e.WellFormed) (hnumbered : (Expr.group 0 e).Numbered)
    (h : (ofExpr e groups).search? text = some marks) {start stop n i j : Nat}
    (hstart : marks.last? 0 = some start) (hstop : marks.last? 1 = some stop) (hn : n ≠ 0)
    (hi : marks.last? (2 * n) = some i) (hj : marks.last? (2 * n + 1) = some j) :
    ∃ f, (n, f) ∈ e.groups ∧ start ≤ i ∧ i ≤ j ∧ j ≤ stop ∧ f.Matches text i j := by
  obtain ⟨first, last, -, hfinds, -⟩ := finds_of_search h
  have hleads := leads_of_finds hwf hfinds
  obtain ⟨hfirst, hlast⟩ := last_of_leads hwf hleads
  obtain rfl : first = start := Option.some.inj (hfirst.symm.trans hstart)
  obtain rfl : last = stop := Option.some.inj (hlast.symm.trans hstop)
  have hends : Marks.ends marks n = (some i, some j) := Prod.ext hi hj
  rcases hleads.noted hnumbered n with hnone | ⟨f, i', j', hf, hends', hle, hij, hle', hmatch⟩
  · -- nothing is noted before the search
    rw [hends] at hnone
    cases hnone
  · rw [hends] at hends'
    cases hends'
    rcases List.mem_cons.mp hf with heq | hf
    · exact absurd (Prod.mk.inj heq).1 hn
    · exact ⟨f, hf, hle, hij, hle', hmatch⟩

end Regex.Program

namespace Pattern

variable {config : Config} {pattern : Text} {p : Pattern}

/-- Group number `n` of some groups has captured `group`, a piece of the match `m` that stands behind `pre` in a text:
its body matches there, under the flags that hold in the group. -/
def Captured (groups : List (Flags × Tree)) (query pre m : Text) (n : Nat) (group : Text) : Prop :=
  group ≠ [] ∧ 1 ≤ n ∧ ∃ flags body before after, groups[n - 1]? = some (flags, body) ∧
    m = before ++ group ++ after ∧
    body.Matches query flags (pre.length + before.length) (pre.length + before.length + group.length)

/-- What a group has captured inside the match is a piece of the match, at the same places of the whole text. -/
theorem captured_piece {groups : List (Flags × Tree)} {query : Text} {start stop n i j : Nat} {flags : Flags}
    {body : Tree} (hgroup : groups[n - 1]? = some (flags, body)) (hn : 1 ≤ n) (hi : start ≤ i) (hij : i ≤ j)
    (hj : j ≤ stop) (hstop : stop ≤ query.length) (hmatch : body.Matches query flags i j) (hne : query.piece i j ≠ []) :
    Captured groups query (query.take start) (query.piece start stop) n (query.piece i j) := by
  -- the match is what stands before the piece, the piece, and what stands after it
  refine ⟨hne, hn, flags, body, query.piece start i, query.piece j stop, hgroup, ?_, ?_⟩
  · rw [piece_append hi hij, piece_append (Nat.le_trans hi hij) hj]
  · have hbefore : (query.take start).length + (query.piece start i).length = i := by
      rw [List.length_take, length_piece (by omega)]
      omega
    rw [hbefore, length_piece (by omega), Nat.add_sub_cancel' hij]
    exact hmatch

/-- The groups of an extraction are not empty and are pieces of the text that is taken out. They are captured by groups
of the pattern with ascending numbers. -/
theorem extract_groups (h : compile config pattern = .ok p) :
    ∃ tree, Tree.ofText pattern = .ok tree ∧ ∀ (query : Text) x, p.extract query = some x →
      ∃ pre m post, query = pre ++ m ++ post ∧ x.stripped = pre ++ post ∧
        p.span? query = some (pre.length, pre.length + m.length) ∧
        (∃ ns : List Nat, ns.Pairwise (· < ·) ∧
          List.Forall₂ (Captured (tree.groups config.flags) query pre m) ns x.groups) ∧
        x.groups.length ≤ (tree.groups config.flags).length := by
  obtain ⟨tree, e, after, htree, helaborate, hprogram⟩ := exists_elaborate_of_compile h
  have hwf := Tree.wellFormed_of_ofText htree
  have hexpr := (Tree.means_of_elaborate hwf helaborate).wellFormed (Nat.le_refl 1)
  obtain ⟨hcount, hnumbered, hsame⟩ := Tree.keeps_groups.elaborate helaborate hwf
  -- group 0 stands around all others, which are numbered from 1 on
  have hzero : (Expr.group 0 e).Numbered := ⟨fun g hg => Nat.ne_of_gt (hsame g hg).le, hnumbered⟩
  refine ⟨tree, htree, fun query x hx => ?_⟩
  obtain ⟨marks, start, stop, hsearch, hstart, hstop, hstripped, hgroups⟩ := extract_eq_some.mp hx
  obtain ⟨start', stop', -, hstart', hstop', hle, hlength, -⟩ := extract_of_search hprogram hexpr hsearch
  obtain rfl : start' = start := Option.some.inj (hstart'.symm.trans hstart)
  obtain rfl : stop' = stop := Option.some.inj (hstop'.symm.trans hstop)
  have hpre : (query.take start').length = start' := by
    rw [List.length_take]
    omega
  refine ⟨query.take start', query.piece start' stop', query.drop stop', ?_, hstripped, ?_, ?_⟩
  · exact (take_piece_drop hle query).symm
  · rw [hpre, length_piece hlength, Nat.add_sub_cancel' hle]
    simp only [span?, hsearch, Option.bind_some, hstart, hstop, Option.map_some]
  -- the numbers of the groups that took part and matched something
  rw [List.filter_filterMap] at hgroups
  obtain ⟨ns, hsub, hall⟩ := exists_sublist_filterMap
    (fun n => (groupText? query marks n).filter fun t => !t.isEmpty) (List.range' 1 p.program.groups)
  rw [← hgroups] at hall
  have hns : ∀ n ∈ ns, 1 ≤ n := fun n hn => (List.mem_range'_1.mp (hsub.subset hn)).1
  refine ⟨⟨ns, List.Pairwise.sublist hsub List.pairwise_lt_range', ?_⟩, ?_⟩
  · refine List.Forall₂.imp ?_ ((List.forall₂_and_left _ _).mpr ⟨hns, hall⟩)
    rintro n group ⟨hn, hgroup⟩
    obtain ⟨htext, hne⟩ := Option.filter_eq_some_iff.mp hgroup
    unfold groupText? at htext
    split at htext
    · next i j hi hj =>
      obtain rfl := Option.some.inj htext
      rw [hprogram] at hsearch
      obtain ⟨f, hf, hsi, hij, hjs, hmatch⟩ :=
        Program.captured_of_search hexpr hzero hsearch hstart hstop (Nat.ne_of_gt hn) hi hj
      obtain ⟨k, flags, body, hk, hnk, hbody⟩ := hsame (n, f) hf
      obtain rfl : k = n - 1 := by
        simp only at hnk
        omega
      exact captured_piece hk hn hsi hij hjs hlength ((hbody query i j).mp hmatch) (by simpa using hne)
    · contradiction
  · rw [← hall.length_eq]
    have hbound := hsub.length_le
    rw [List.length_range', hprogram] at hbound
    simp only [Program.ofExpr, hcount] at hbound
    omega

/-- Of two groups the second one has captured a letter. -/
theorem extract_groups_second : ∃ p tree,
    compile .standard ['(', 'a', ')', '|', '(', 'b', ')'] = .ok p ∧
    Tree.ofText ['(', 'a', ')', '|', '(', 'b', ')'] = .ok tree ∧
    p.extract ['x', 'B'] = some ⟨['x'], [['B']]⟩ ∧
    ∃ pre m post, ['x', 'B'] = pre ++ m ++ post ∧ ['x'] = pre ++ post ∧
      ∃ ns : List Nat, ns.Pairwise (· < ·) ∧
        List.Forall₂ (Captured (tree.groups (Config.flags .standard)) ['x', 'B'] pre m) ns [['B']] := by
  obtain ⟨p, hp, hx⟩ : ∃ p, compile .standard ['(', 'a', ')', '|', '(', 'b', ')'] = .ok p ∧
      p.extract ['x', 'B'] = some ⟨['x'], [['B']]⟩ := ⟨_, by rfl, by rfl⟩
  obtain ⟨tree, htree, hgroups⟩ := extract_groups hp
  obtain ⟨pre, m, post, hquery, hstripped, -, hns, -⟩ := hgroups ['x', 'B'] _ hx
  exact ⟨p, tree, hp, htree, hx, pre, m, post, hquery, hstripped, hns⟩

end Pattern

end PatternGrammar
