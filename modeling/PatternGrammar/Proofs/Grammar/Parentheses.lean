import PatternGrammar.Proofs.CharSet.Caseless
import PatternGrammar.Proofs.Grammar.Anchored

/-!
# Nested parentheses

A grammar that refers to itself between two parentheses counts how deep they are nested at the start of a text, if all
of them are closed there, and takes nothing otherwise. It unfolds its definition once for each opening parenthesis
(`Grammar.nesting_counts`).
-/

namespace PatternGrammar

/-! ## The first character of a text -/

namespace Pattern

open Regex

/-- A pattern of `^` and a set takes the first character of a text if it is in the set. -/
theorem stripped_of_start_chars {p : Pattern} {s : CharSet} {groups : Nat}
    (hprogram : p.program = .ofExpr (.cat (.assertion .textStart) (.chars s)) groups) (query : Text) :
    (p.extract query).map (·.stripped) = (query.head?.filter s.mem).map fun _ => query.tail := by
  have hwf : (Expr.cat (.assertion .textStart) (.chars s)).WellFormed := ⟨trivial, trivial⟩
  cases hx : p.extract query with
  | none =>
    cases query with
    | nil => rfl
    | cons c rest =>
      have hmem : ¬ s.mem c = true := by
        intro hmem
        exact (extract_eq_none_iff hprogram hwf).mp hx 0 1 (Nat.zero_le 1) (Nat.le_add_left 1 _)
          ⟨0, ⟨rfl, rfl⟩, rfl, c, rfl, hmem⟩
      rw [List.head?_cons, Option.filter_some, if_neg hmem]
      rfl
  | some x =>
    obtain ⟨pre, m, post, hquery, hstripped, ⟨k, ⟨hk, hstart⟩, hlength, c, hget, hmem⟩, -⟩ :=
      exists_cut_of_extract hprogram hwf hx
    have hzero : pre.length = 0 := by
      refine eq_zero_of_textStart ?_ hstart
      rw [hquery, List.append_assoc, List.length_append]
      exact Nat.le_add_right _ _
    obtain rfl := List.length_eq_zero_iff.mp hzero
    obtain rfl : 0 = k := hk
    obtain ⟨d, rfl⟩ : ∃ d, m = [d] := List.length_eq_one_iff.mp (by omega)
    obtain rfl : query = d :: post := hquery
    obtain rfl : d = c := Option.some.inj hget
    rw [List.head?_cons, Option.filter_some, if_pos hmem]
    exact congrArg some hstripped

end Pattern

namespace Grammar

/-- A grammar takes a given character from the start of a text, and fails where another one stands there. -/
structure Takes {ν : Type} {τ : ν → Type} (g : Grammar τ Unit) (c : Char) : Prop where
  succeeds : ∀ unfold text, g.runWith unfold (c :: text) = some (.success () text)
  fails : ∀ unfold text, text.head? ≠ some c →
    ∃ pattern, g.runWith unfold text = some ⟨none, [.noMatch pattern text]⟩

/-- A pattern of `^` and a character without another case takes that character. -/
theorem exists_takes {ν : Type} (τ : ν → Type) (pattern : Text) (c : Char)
    (hcompile : Pattern.compile .standard pattern =
      .ok ⟨pattern, .ofExpr (.cat (.assertion .textStart) (.chars (.letter .simple c.toNat))) 0⟩)
    (hself : Unicode.foldPoint c.toNat = c.toNat) (hsources : Unicode.foldSources c.toNat = []) :
    ∃ g : Grammar τ Unit, ofPattern .standard pattern (.constant ()) = .ok g ∧ g.Takes c := by
  obtain ⟨p, hp, hprogram⟩ : ∃ p, Pattern.compile .standard pattern = .ok p ∧
      p.program = .ofExpr (.cat (.assertion .textStart) (.chars (.letter .simple c.toNat))) 0 := ⟨_, hcompile, rfl⟩
  have hstripped := Pattern.stripped_of_start_chars hprogram
  have hmem (d : Char) : (CharSet.letter .simple c.toNat).mem d = true ↔ d = c := by
    rw [CharSet.mem_letter_iff]
    constructor
    · exact fun h => SameLetter.eq_of_no_sources h hself hsources
    · rintro rfl
      rfl
  refine ⟨regex p (.constant ()), by rw [ofPattern, hp], fun unfold text => ?_, fun unfold text hhead => ?_⟩
  · have htext := hstripped (c :: text)
    rw [List.head?_cons, Option.filter_some, if_pos ((hmem c).mpr rfl)] at htext
    obtain ⟨x, hx, rfl⟩ := Option.map_eq_some_iff.mp htext
    exact congrArg some (Run.ofPattern_of_some hx _)
  · have hnone : p.extract text = none := by
      rw [← Option.map_eq_none_iff, hstripped, Option.map_eq_none_iff, Option.filter_eq_none_iff]
      intro d hd hd'
      obtain rfl := (hmem d).mp hd'
      exact hhead hd
    exact ⟨p.text, congrArg some (Run.ofPattern_of_none hnone _)⟩

/-! ## Nesting -/

/-- The depth to which parentheses are nested at the start of a text, all of which are closed there. -/
def nesting (opening closing : Grammar (fun _ : Unit => Nat) Unit) : Grammar (fun _ : Unit => Nat) Nat :=
  orElse (map (fun (_, n, _) => n + 1) (tuple3 opening (lazy ()) closing)) (pure 0)

/-- The one definition, to which the grammar refers. -/
def nestings (opening closing : Grammar (fun _ : Unit => Nat) Unit) : Definitions fun _ : Unit => Nat :=
  ⟨[()], fun _ => nesting opening closing⟩

/-- `n` opening parentheses, `m` closing ones, and another text. -/
def parentheses (n m : Nat) (tail : Text) : Text :=
  List.replicate n '(' ++ (List.replicate m ')' ++ tail)

/-- A run succeeds with a number and a text left, and has unfolded the definition `k` times. -/
def Counts (o : Option (Run Unit Nat)) (n : Nat) (rest : Text) (k : Nat) : Prop :=
  ∃ r, o = some r ∧ r.outcome = some (n, rest) ∧ r.events.count (.unfolded ()) = k

section

variable {opening closing : Grammar (fun _ : Unit => Nat) Unit} {unfold : Unit → Text → Option (Run Unit Nat)}
  {text rest : Text} {n k : Nat}

/-- Where no parenthesis opens the depth is zero and nothing is taken. -/
theorem counts_nothing (hopening : opening.Takes '(') (htext : text.head? ≠ some '(') :
    Counts ((nesting opening closing).runWith unfold text) 0 text 0 := by
  obtain ⟨pattern, hfails⟩ := hopening.fails unfold text htext
  refine ⟨⟨some (0, text), [.noMatch pattern text, .firstAlternativeFailed text]⟩, ?_, rfl, rfl⟩
  simp only [nesting, runWith, hfails]
  rfl

/-- A parenthesis that is closed counts one more than what is inside. -/
theorem counts_closed (hopening : opening.Takes '(') (hclosing : closing.Takes ')')
    (hinside : Counts (unfold () text) n (')' :: rest) k) :
    Counts ((nesting opening closing).runWith unfold ('(' :: text)) (n + 1) rest k := by
  obtain ⟨⟨_, events⟩, hr, rfl, hcount⟩ := hinside
  refine ⟨⟨some (n + 1, rest), events⟩, ?_, rfl, hcount⟩
  simp only [nesting, runWith, hopening.succeeds, hr, hclosing.succeeds, Option.bind_eq_bind, Option.bind_some,
    Run.success, Run.andThen, Run.otherwise, Option.map_some, Run.map, Run.after, List.nil_append, List.append_nil]

/-- A parenthesis that is not closed counts as none, and is given back with all behind it. -/
theorem counts_open (hopening : opening.Takes '(') (hclosing : closing.Takes ')')
    (hinside : Counts (unfold () text) n rest k) (hrest : rest.head? ≠ some ')') :
    Counts ((nesting opening closing).runWith unfold ('(' :: text)) 0 ('(' :: text) k := by
  obtain ⟨⟨_, events⟩, hr, rfl, hcount⟩ := hinside
  obtain ⟨pattern, hfails⟩ := hclosing.fails unfold rest hrest
  refine ⟨⟨some (0, '(' :: text), events ++ [.noMatch pattern rest, .firstAlternativeFailed ('(' :: text)]⟩,
    ?_, rfl, ?_⟩
  · simp only [nesting, runWith, hopening.succeeds, hr, hfails, Option.bind_eq_bind, Option.bind_some, Run.success,
      Run.andThen, Run.otherwise, Option.map_some, Option.map_none, Run.map, Run.after, List.nil_append,
      List.append_nil, List.append_assoc, List.singleton_append]
  · rw [List.count_append, hcount]
    rfl

theorem counts_unfolding {depth : Nat}
    (h : Counts ((nesting opening closing).runDepth (nestings opening closing).body depth text) n rest k) :
    Counts (unfolding (nestings opening closing).body (depth + 1) () text) n rest (k + 1) := by
  obtain ⟨r, hr, houtcome, hcount⟩ := h
  refine ⟨r.after [.unfolded ()], Option.map_eq_some_iff.mpr ⟨r, hr, rfl⟩, houtcome, ?_⟩
  show (Event.unfolded () :: r.events).count (.unfolded ()) = k + 1
  rw [List.count_cons_self, hcount]

/-- What is counted at any depth from the number of opening parentheses on. -/
theorem counts_parentheses (hopening : opening.Takes '(') (hclosing : closing.Takes ')') {m : Nat} {tail : Text}
    (hclose : tail.head? ≠ some ')') (hopen : m = 0 → tail.head? ≠ some '(') (n depth : Nat) :
    (n ≤ m → Counts ((nesting opening closing).runDepth (nestings opening closing).body (depth + n)
      (parentheses n m tail)) n (List.replicate (m - n) ')' ++ tail) n) ∧
    (m < n → Counts ((nesting opening closing).runDepth (nestings opening closing).body (depth + n)
      (parentheses n m tail)) 0 (parentheses n m tail) n) := by
  induction n with
  | zero =>
    refine ⟨fun _ => counts_nothing hopening ?_, fun hlt => absurd hlt (Nat.not_lt_zero m)⟩
    cases m with
    | zero => exact hopen rfl
    | succ m => simp [parentheses, List.replicate_succ]
  | succ n ih =>
    obtain ⟨hclosed, hleft⟩ := ih
    refine ⟨fun hle => ?_, fun hlt => ?_⟩
    · -- inside all are closed, and one more behind
      have hinside := counts_unfolding (hclosed (Nat.le_of_succ_le hle))
      rw [show m - n = m - (n + 1) + 1 by omega] at hinside
      exact counts_closed hopening hclosing hinside
    · rcases Nat.lt_succ_iff_lt_or_eq.mp hlt with hlt | rfl
      · -- what was not closed inside is left there
        refine counts_open hopening hclosing (counts_unfolding (hleft hlt)) ?_
        obtain ⟨n, rfl⟩ := Nat.exists_eq_succ_of_ne_zero (Nat.ne_of_gt (Nat.zero_lt_of_lt hlt))
        simp [parentheses, List.replicate_succ]
      · have hinside := counts_unfolding (hclosed (Nat.le_refl m))
        rw [Nat.sub_self] at hinside
        exact counts_open hopening hclosing hinside hclose

end

/-- A text of parentheses is counted: as many as are opened, if these are all closed behind, with the further closing
ones left, and none otherwise, with all of the text left. The definition is unfolded once for each opening one. -/
theorem nesting_counts :
    ∃ opening closing : Grammar (fun _ : Unit => Nat) Unit,
      ofPattern .standard ['^', '\\', '('] (.constant ()) = .ok opening ∧
        ofPattern .standard ['^', '\\', ')'] (.constant ()) = .ok closing ∧
        ∀ (n m : Nat) (tail : Text), tail.head? ≠ some ')' → (m = 0 → tail.head? ≠ some '(') →
          ∃ r, (nesting opening closing).parse (nestings opening closing) (parentheses n m tail) = some r ∧
            r.outcome = some (if n ≤ m then (n, List.replicate (m - n) ')' ++ tail) else (0, parentheses n m tail)) ∧
            r.events.count (.unfolded ()) = n := by
  obtain ⟨opening, hopening, htakes⟩ :=
    exists_takes (fun _ : Unit => Nat) ['^', '\\', '('] '(' (by rfl) (by decide) (by decide)
  obtain ⟨closing, hclosing, htakes'⟩ :=
    exists_takes (fun _ : Unit => Nat) ['^', '\\', ')'] ')' (by rfl) (by decide) (by decide)
  refine ⟨opening, closing, hopening, hclosing, fun n m tail hclose hopen => ?_⟩
  -- the depth that is allowed is enough for all opening parentheses
  obtain ⟨more, hdepth⟩ : ∃ more,
      (nestings opening closing).names.length * ((parentheses n m tail).length + 1) = more + n := by
    refine ⟨(parentheses n m tail).length + 1 - n, ?_⟩
    have hlength : n ≤ (parentheses n m tail).length := by
      rw [parentheses, List.length_append, List.length_replicate]
      exact Nat.le_add_right _ _
    show 1 * ((parentheses n m tail).length + 1) = _
    omega
  obtain ⟨hclosed, hleft⟩ := counts_parentheses htakes htakes' hclose hopen n more
  rw [parse, hdepth]
  by_cases hle : n ≤ m
  · rw [if_pos hle]
    exact hclosed hle
  · rw [if_neg hle]
    exact hleft (Nat.lt_of_not_le hle)

/-- Three levels are closed, and a bracket behind them that is not opened is left; of four levels one is not closed. -/
theorem nesting_counts_three :
    ∃ opening closing : Grammar (fun _ : Unit => Nat) Unit,
      (∃ r, (nesting opening closing).parse (nestings opening closing) "((())))x".toList = some r ∧
        r.outcome = some (3, ")x".toList) ∧ r.events.count (.unfolded ()) = 3) ∧
      ∃ r, (nesting opening closing).parse (nestings opening closing) "(((()))x".toList = some r ∧
        r.outcome = some (0, "(((()))x".toList) ∧ r.events.count (.unfolded ()) = 4 := by
  obtain ⟨opening, closing, -, -, hcounts⟩ := nesting_counts
  exact ⟨opening, closing, hcounts 3 4 ['x'] (by decide) (by decide), hcounts 4 3 ['x'] (by decide) (by decide)⟩

end Grammar

end PatternGrammar
