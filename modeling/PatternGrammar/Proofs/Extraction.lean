import PatternGrammar.Pattern
import PatternGrammar.Proofs.Regex.Compiled
import PatternGrammar.Proofs.Regex.Meaning

/-!
# Extraction

A pattern takes out the leftmost piece of a text that its tree matches, and fails only where no piece matches
(`extract_leftmost`). Matches are those of `Regex.Tree.Matches`, which does not know of programs or threads.
-/

namespace PatternGrammar.Pattern

open Regex

variable {config : Config} {pattern query : Text} {p : Pattern}

/-- A text is what stands before a piece, the piece and what stands behind it. -/
theorem take_piece_drop {start stop : Nat} (hle : start ≤ stop) (text : Text) :
    text.take start ++ text.piece start stop ++ text.drop stop = text := by
  have hdrop : text.drop stop = (text.drop start).drop (stop - start) := by
    rw [List.drop_drop, Nat.add_sub_cancel' hle]
  rw [Text.piece, hdrop, List.append_assoc, List.take_append_drop, List.take_append_drop]

/-- A piece is put together of the pieces between any places of it. -/
theorem piece_append {i j k : Nat} (hij : i ≤ j) (hjk : j ≤ k) (text : Text) :
    text.piece i j ++ text.piece j k = text.piece i k := by
  have hdrop : text.drop j = (text.drop i).drop (j - i) := by
    rw [List.drop_drop, Nat.add_sub_cancel' hij]
  have hlength : k - i = (j - i) + (k - j) := by omega
  rw [Text.piece, Text.piece, Text.piece, hdrop, hlength, List.take_add]

theorem length_piece {i j : Nat} {text : Text} (hj : j ≤ text.length) : (text.piece i j).length = j - i := by
  rw [Text.piece, List.length_take, List.length_drop]
  omega

/-- A compiled pattern has the program of the expression that its tree is given. -/
theorem exists_elaborate_of_compile (h : compile config pattern = .ok p) :
    ∃ tree e after, Tree.ofText pattern = .ok tree ∧ tree.elaborate ⟨config.flags, 1⟩ = .ok (e, after) ∧
      p.program = .ofExpr e (after.nextGroup - 1) := by
  unfold compile compileBy meaning at h
  split at h
  · contradiction
  · next e groups hmeaning =>
    split at hmeaning
    · contradiction
    · next tree htree =>
      split at hmeaning
      · contradiction
      · split at hmeaning
        · contradiction
        · next e' after helaborate =>
          obtain ⟨rfl, rfl⟩ := Prod.mk.inj (Except.ok.inj hmeaning)
          dsimp only at h
          split at h
          · contradiction
          · obtain rfl := Except.ok.inj h
            exact ⟨tree, _, after, htree, helaborate, rfl⟩

/-- A compiled pattern has the program of an expression that matches where its tree does. -/
theorem exists_tree_of_compile (h : compile config pattern = .ok p) :
    ∃ tree e groups, Tree.ofText pattern = .ok tree ∧ p.program = .ofExpr e groups ∧ e.WellFormed ∧
      ∀ text i j, e.Matches text i j ↔ tree.Matches text config.flags i j := by
  obtain ⟨tree, e, after, htree, helaborate, hprogram⟩ := exists_elaborate_of_compile h
  have hmeans := Tree.means_of_elaborate (Tree.wellFormed_of_ofText htree) helaborate
  exact ⟨tree, e, _, htree, hprogram, hmeans.wellFormed (Nat.le_refl 1), hmeans.same⟩

/-- Where a pattern finds its first match: the places where it starts and where it ends. -/
def span? (p : Pattern) (query : Text) : Option (Nat × Nat) :=
  (p.program.search? query).bind fun marks =>
    (marks.last? 0).bind fun start => (marks.last? 1).map (start, ·)

/-- What is taken out of a text is told by the positions that a search notes. -/
theorem extract_eq_some {x : Extraction} : p.extract query = some x ↔
    ∃ marks start stop, p.program.search? query = some marks ∧ marks.last? 0 = some start ∧
      marks.last? 1 = some stop ∧ x.stripped = query.take start ++ query.drop stop ∧
      x.groups = ((List.range' 1 p.program.groups).filterMap (groupText? query marks)).filter
        fun t => !t.isEmpty := by
  obtain ⟨stripped, groups⟩ := x
  unfold extract
  split
  · next hsearch => simp [hsearch]
  · next marks hsearch =>
    split
    · next start stop hstart hstop =>
      simp only [hsearch, Option.some.injEq, Extraction.mk.injEq]
      constructor
      · rintro ⟨rfl, rfl⟩
        exact ⟨marks, start, stop, rfl, hstart, hstop, rfl, rfl⟩
      · rintro ⟨marks', start', stop', rfl, hstart', hstop', rfl, rfl⟩
        obtain rfl := Option.some.inj (hstart.symm.trans hstart')
        obtain rfl := Option.some.inj (hstop.symm.trans hstop')
        exact ⟨rfl, rfl⟩
    · next hnone =>
      simp only [false_iff, reduceCtorEq]
      rintro ⟨marks', start, stop, hsearch', hstart, hstop, -⟩
      obtain rfl := Option.some.inj (hsearch.symm.trans hsearch')
      exact hnone start stop hstart hstop

/-! ## What the program of an expression takes out -/

variable {e : Expr} {groups : Nat}

/-- What a search finds is cut out, and lies in the text. -/
theorem extract_of_search {marks : Marks} (hprogram : p.program = .ofExpr e groups)
    (hwf : e.WellFormed) (hsearch : p.program.search? query = some marks) :
    ∃ start stop x, marks.last? 0 = some start ∧ marks.last? 1 = some stop ∧ start ≤ stop ∧
      stop ≤ query.length ∧ p.extract query = some x ∧
      x.stripped = query.take start ++ query.drop stop ∧ e.Matches query start stop ∧
      ∀ i j, i < start → ¬ e.Matches query i j := by
  have hexpr := hsearch
  rw [hprogram] at hexpr
  obtain ⟨start, stop, hstart, hstop, hle, hlength, hmatch, hfirst⟩ := Program.search_of_expr hwf hexpr
  simp only [extract, hsearch, hstart, hstop]
  exact ⟨start, stop, _, rfl, rfl, hle, hlength, rfl, rfl, hmatch, fun i j hi => hfirst i hi j⟩

/-- Nothing is taken out exactly if the search finds nothing. -/
theorem extract_eq_none_iff_search (hprogram : p.program = .ofExpr e groups) (hwf : e.WellFormed) :
    p.extract query = none ↔ p.program.search? query = none := by
  cases hsearch : p.program.search? query with
  | none => simp only [extract, hsearch]
  | some marks =>
    obtain ⟨start, stop, x, -, -, -, -, hextract, -⟩ := extract_of_search hprogram hwf hsearch
    simp only [hextract, reduceCtorEq]

/-- Nothing is taken out exactly if the expression matches nowhere in the text. -/
theorem extract_eq_none_iff (hprogram : p.program = .ofExpr e groups) (hwf : e.WellFormed) :
    p.extract query = none ↔ ∀ i j, i ≤ j → j ≤ query.length → ¬ e.Matches query i j := by
  rw [extract_eq_none_iff_search hprogram hwf]
  constructor
  · intro hsearch i j hij hj
    rw [hprogram] at hsearch
    exact Program.not_matches_of_search hwf hsearch (Nat.le_trans hij hj)
  · intro hnot
    cases hsearch : p.program.search? query with
    | none => rfl
    | some marks =>
      obtain ⟨start, stop, x, -, -, hle, hlength, -, -, hmatch, -⟩ :=
        extract_of_search hprogram hwf hsearch
      exact absurd hmatch (hnot start stop hle hlength)

/-- What is taken out of a text is the leftmost piece of it that matches. -/
theorem exists_cut_of_extract {x : Extraction} (hprogram : p.program = .ofExpr e groups)
    (hwf : e.WellFormed) (hx : p.extract query = some x) :
    ∃ pre m post, query = pre ++ m ++ post ∧ x.stripped = pre ++ post ∧
      e.Matches query pre.length (pre.length + m.length) ∧
      ∀ i j, i < pre.length → ¬ e.Matches query i j := by
  cases hsearch : p.program.search? query with
  | none =>
    simp only [extract, hsearch] at hx
    contradiction
  | some marks =>
    obtain ⟨start, stop, y, -, -, hle, hlength, hy, hstripped, hmatch, hfirst⟩ :=
      extract_of_search hprogram hwf hsearch
    obtain rfl : x = y := Option.some.inj (hx.symm.trans hy)
    have hpre : (query.take start).length = start := by
      rw [List.length_take]
      omega
    refine ⟨query.take start, query.piece start stop, query.drop stop, ?_, hstripped, ?_, ?_⟩
    · exact (take_piece_drop hle query).symm
    · rw [hpre, length_piece hlength, Nat.add_sub_cancel' hle]
      exact hmatch
    · rw [hpre]
      exact hfirst

/-- The leftmost match is taken out of a text. What the search notes is a piece of the text, and the text is as much
longer in bytes as the match is. -/
theorem extract_leftmost (h : compile config pattern = .ok p) :
    ∃ tree, Tree.ofText pattern = .ok tree ∧ ∀ query : Text,
      (p.extract query = none ↔
        ∀ i j, i ≤ j → j ≤ query.length → ¬ tree.Matches query config.flags i j) ∧
      (∀ x, p.extract query = some x → ∃ pre m post, query = pre ++ m ++ post ∧
        x.stripped = pre ++ post ∧
        (String.ofList x.stripped).utf8ByteSize + (String.ofList m).utf8ByteSize =
          (String.ofList query).utf8ByteSize ∧
        tree.Matches query config.flags pre.length (pre.length + m.length) ∧
        ∀ i j, i < pre.length → ¬ tree.Matches query config.flags i j) ∧
      ∀ marks, p.program.search? query = some marks →
        ∃ start stop, marks.last? 0 = some start ∧ marks.last? 1 = some stop ∧
          start ≤ stop ∧ stop ≤ query.length := by
  obtain ⟨tree, e, groups, htree, hprogram, hwf, hsame⟩ := exists_tree_of_compile h
  refine ⟨tree, htree, fun query => ?_⟩
  simp only [← hsame]
  refine ⟨extract_eq_none_iff hprogram hwf, fun x hx => ?_, fun marks hmarks => ?_⟩
  · obtain ⟨pre, m, post, hquery, hstripped, hmatch, hfirst⟩ := exists_cut_of_extract hprogram hwf hx
    refine ⟨pre, m, post, hquery, hstripped, ?_, hmatch, hfirst⟩
    rw [hstripped, hquery]
    simp only [String.ofList_append, String.utf8ByteSize_append]
    omega
  · obtain ⟨start, stop, -, hstart, hstop, hle, hlength, -⟩ := extract_of_search hprogram hwf hmarks
    exact ⟨start, stop, hstart, hstop, hle, hlength⟩

/-- The first `b` of a text is taken out in either case, with what stands before it kept, and a text without one is left
alone. -/
theorem extract_leftmost_letter : ∃ p tree, compile .standard ['b'] = .ok p ∧ Tree.ofText ['b'] = .ok tree ∧
    p.extract ['x', 'B', 'y', 'b'] = some ⟨['x', 'y', 'b'], []⟩ ∧
    tree.Matches ['x', 'B', 'y', 'b'] (Config.flags .standard) 1 2 ∧
    (∀ j, ¬ tree.Matches ['x', 'B', 'y', 'b'] (Config.flags .standard) 0 j) ∧
    p.extract ['x', 'y'] = none ∧
    ∀ i j, i ≤ j → j ≤ 2 → ¬ tree.Matches ['x', 'y'] (Config.flags .standard) i j := by
  obtain ⟨p, hp, hx, hnone⟩ : ∃ p, compile .standard ['b'] = .ok p ∧
      p.extract ['x', 'B', 'y', 'b'] = some ⟨['x', 'y', 'b'], []⟩ ∧ p.extract ['x', 'y'] = none :=
    ⟨_, by rfl, by rfl, by rfl⟩
  obtain ⟨tree, htree, hcut⟩ := extract_leftmost hp
  obtain ⟨-, hfound, -⟩ := hcut ['x', 'B', 'y', 'b']
  obtain ⟨pre, m, post, hquery, hstripped, -, hmatch, hfirst⟩ := hfound _ hx
  -- there is one place where a cut leaves this
  have hplace : ∀ i ≤ 4, ∀ j ≤ 4,
      List.take i ['x', 'B', 'y', 'b'] ++ List.drop j ['x', 'B', 'y', 'b'] = ['x', 'y', 'b'] → i = 1 ∧ j = 2 := by
    decide
  have hlength : 4 = pre.length + m.length + post.length := by
    rw [← List.length_append, ← List.length_append, ← hquery]
    rfl
  obtain ⟨hstart, hstop⟩ := hplace pre.length (by omega) (pre.length + m.length) (by omega) (by
    rw [hquery, ← List.length_append, List.drop_left, List.append_assoc, List.take_left]
    exact hstripped.symm)
  rw [hstop, hstart] at hmatch
  rw [hstart] at hfirst
  exact ⟨p, tree, hp, htree, hx, hmatch, fun j => hfirst 0 j (by decide), hnone, (hcut ['x', 'y']).1.mp hnone⟩

end PatternGrammar.Pattern
