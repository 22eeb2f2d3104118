import PatternGrammar.Proofs.Regex.Preference

/-!
# Simplification keeps the order

Simplified rows and repetitions try their ways in the order in which they were written (`Expr.agrees_repeated`). A
choice whose branches begin alike matches the beginning before it prefers a branch, and that is the order of the
branches only where the beginning can be matched in one way (`Expr.agrees_choice`).
-/

namespace PatternGrammar.Regex.Expr

variable {text : Text}

/-! ## Rows -/

def waysOfRow (text : Text) : List Expr → Ways
  | [] => .stay
  | e :: es => (e.ways text).andThen (waysOfRow text es)

theorem waysOfRow_singleton (e : Expr) : waysOfRow text [e] = e.ways text :=
  Ways.andThen_stay _

theorem waysOfRow_append (es fs : List Expr) :
    waysOfRow text (es ++ fs) = (waysOfRow text es).andThen (waysOfRow text fs) := by
  induction es with
  | nil => exact (Ways.stay_andThen _).symm
  | cons e es ih => rw [List.cons_append, waysOfRow, ih, waysOfRow, Ways.andThen_assoc]

theorem waysOfRow_items (e : Expr) : waysOfRow text e.items = e.ways text := by
  induction e with
  | empty => rfl
  | cat e f ihe ihf => rw [items, waysOfRow_append, ihe, ihf, ways]
  | _ => exact waysOfRow_singleton _

theorem ways_ofItems (es : List Expr) : (ofItems es).ways text = waysOfRow text es := by
  induction es with
  | nil => rfl
  | cons e es ih =>
    cases es with
    | nil => exact (waysOfRow_singleton e).symm
    | cons f es => exact congrArg (Ways.andThen _) ih

theorem ways_sequence (es : List Expr) : (sequence es).ways text = waysOfRow text es := by
  rw [sequence, ways_ofItems]
  induction es with
  | nil => rfl
  | cons e es ih => rw [List.flatMap_cons, waysOfRow_append, waysOfRow_items, ih, waysOfRow]

/-! ## Choices -/

def waysOfSome (text : Text) (es : List Expr) : Ways :=
  fun i => es.flatMap fun e => e.ways text i

theorem waysOfSome_singleton (e : Expr) : waysOfSome text [e] = e.ways text := by
  funext i
  rw [waysOfSome, List.flatMap_singleton]

theorem waysOfSome_cons (e : Expr) (es : List Expr) :
    waysOfSome text (e :: es) = (e.ways text).orElse (waysOfSome text es) := by
  funext i
  exact List.flatMap_cons

theorem waysOfSome_append (es fs : List Expr) :
    waysOfSome text (es ++ fs) = (waysOfSome text es).orElse (waysOfSome text fs) := by
  funext i
  exact List.flatMap_append

theorem waysOfSome_branches (e : Expr) : waysOfSome text e.branches = e.ways text := by
  induction e with
  | alt e f ihe ihf => rw [branches, waysOfSome_append, ihe, ihf, ways]
  | _ => exact waysOfSome_singleton _

theorem waysOfSome_flatMap_branches (es : List Expr) : waysOfSome text (es.flatMap branches) = waysOfSome text es := by
  induction es with
  | nil => rfl
  | cons e es ih => rw [List.flatMap_cons, waysOfSome_append, waysOfSome_branches, ih, waysOfSome_cons]

theorem ways_ofBranches {es : List Expr} (h : es ≠ []) : (ofBranches es).ways text = waysOfSome text es := by
  induction es with
  | nil => exact absurd rfl h
  | cons e es ih =>
    cases es with
    | nil => exact (waysOfSome_singleton e).symm
    | cons f es => rw [ofBranches, ways, ih (by simp), ← waysOfSome_cons]

/-- A character is read in one way, however many of the sets have it. -/
theorem first?_waysOfSome_chars (sets : List CharSet) (i : Nat) (next : Nat → Option Spot) :
    Ways.first? (waysOfSome text (sets.map chars) i) next =
      Ways.first? ((chars (.unions sets)).ways text i) next := by
  induction sets with
  | nil =>
    have hnone : (CharSet.unions []).mem = fun _ => false := funext CharSet.mem_empty
    rw [ways, Ways.first?_read, hnone]
    cases text[i]? <;> rfl
  | cons s sets ih =>
    have hcons (c : Char) : (CharSet.unions (s :: sets)).mem c = (s.mem c || (CharSet.unions sets).mem c) := by
      rw [Bool.eq_iff_iff, Bool.or_eq_true, CharSet.mem_unions, CharSet.mem_unions]
      simp only [List.mem_cons, exists_eq_or_imp]
    rw [List.map_cons, waysOfSome_cons, Ways.first?_orElse, ih, ways, ways, ways, Ways.first?_read, Ways.first?_read,
      Ways.first?_read]
    cases text[i]? with
    | none => rfl
    | some c =>
      simp only [Option.any_some, hcons, Bool.or_eq_true]
      -- a second set with the character leads to the same place once more
      by_cases hs : s.mem c = true
      · simp only [hs, if_true, true_or]
        split
        · exact Option.or_self
        · exact Option.or_none
      · simp only [hs, Bool.false_eq_true, if_false, false_or, Option.none_or]

/-- A union has the ways of its sets, as each of them reads one character. -/
theorem agrees_unions (sets : List CharSet) :
    (waysOfSome text (sets.map chars)).Agrees ((chars (.unions sets)).ways text) := by
  intro i next next' hnext
  rw [first?_waysOfSome_chars]
  exact Ways.Agree.refl _ next next' hnext

/-- Where branches are joined to a set their order does not matter, as each of them reads one character. -/
theorem agrees_join {es : List Expr} (h : es ≠ []) : (waysOfSome text es).Agrees ((join es).ways text) := by
  unfold join
  split
  · exact absurd rfl h
  · exact .of_eq (waysOfSome_singleton _)
  · split
    · next sets hsets =>
      split
      · rw [mapM_set? hsets]
        exact agrees_unions sets
      · exact .of_eq (ways_ofBranches h).symm
    · exact .of_eq (ways_ofBranches h).symm

/-! ## Common beginnings -/

theorem ways_of_same {e f : Expr} (h : e.same f = true) : e.ways text = f.ways text := by
  fun_induction same e f with
  | case1 => rfl
  | case2 s t =>
    have hmem : s.mem = t.mem := funext (CharSet.mem_eq_of_same h)
    rw [ways, ways, hmem]
  | case3 a b => rw [eq_of_beq h]
  | case4 e f g k ihe ihf | case5 e f g k ihe ihf =>
    rw [Bool.and_eq_true] at h
    rw [ways, ways, ihe h.1, ihf h.2]
  | case6 m e n f ih =>
    rw [Bool.and_eq_true, beq_iff_eq] at h
    rw [ways, ways, ih h.2, h.1]
  | case7 lo hi greedy e lo' hi' greedy' f ih =>
    simp only [Bool.and_eq_true, beq_iff_eq] at h
    obtain ⟨⟨⟨rfl, rfl⟩, rfl⟩, hef⟩ := h
    rw [ways, ways, ih hef]
  | case8 => simp at h

theorem respectsSame_waysOfRow (text : Text) : RespectsSame (waysOfRow text) := by
  intro e f es fs hsame hrest
  rw [waysOfRow, waysOfRow, ways_of_same hsame, hrest]

/-- The items with which all branches of a choice begin. -/
def beginning (es : List Expr) : List Expr :=
  let parts := (es.flatMap branches).map pieces
  ((parts.headD []).take (commonPieces parts)).flatten

/-- Where something can be matched in one way at most it can be taken out of what is to be tried behind it. -/
theorem waysOfSome_factor {es : List Expr} {rest : Expr → Expr} {v : Ways}
    (hone : ∀ i, (v i).length ≤ 1) (h : ∀ e ∈ es, e.ways text = v.andThen ((rest e).ways text)) :
    waysOfSome text es = v.andThen (waysOfSome text (es.map rest)) := by
  funext i
  have hes : waysOfSome text es i = es.flatMap fun e => v.andThen ((rest e).ways text) i := by
    rw [waysOfSome, List.flatMap_def, List.flatMap_def, List.map_congr_left fun e he => by rw [h e he]]
  rw [hes]
  unfold Ways.andThen
  -- from each place `v` has no way or one, so there is no other way to come back to
  match hv : v i, hone i with
  | [], _ => simp
  | [s], _ => simp [waysOfSome, List.flatMap_map, List.map_flatMap]

/-- A choice tries its branches one after the other, if their common beginning can be matched in one way at most. -/
theorem agrees_choice {es : List Expr} (h : es ≠ []) (hone : ∀ i, (waysOfRow text (beginning es) i).length ≤ 1) :
    (waysOfSome text es).Agrees ((choice es).ways text) := by
  have hne := flatMap_branches_ne_nil h
  rw [← waysOfSome_flatMap_branches, choice]
  unfold beginning at hone
  generalize es.flatMap branches = bs at hne hone ⊢
  dsimp only at hone ⊢
  split
  · rename_i first others n hparts hcommon
    rw [hcommon, hparts, List.headD_cons] at hone
    -- a branch is the common beginning, and what is left of the branch behind that
    have hsplit (e : Expr) (he : e ∈ bs) : e.ways text =
        (waysOfRow text (first.take (n + 1)).flatten).andThen
          ((ofItems (e.pieces.drop (n + 1)).flatten).ways text) := by
      have hmem : e.pieces ∈ first :: others := hparts ▸ List.mem_map_of_mem he
      have hbegin := (respectsSame_waysOfRow text).commonPieces hmem
      rw [← hparts, hcommon] at hbegin
      rw [← waysOfRow_items, ← flatten_pieces, ← List.take_append_drop (n + 1) e.pieces, List.flatten_append,
        waysOfRow_append, List.take_append_drop, hbegin, ways_ofItems]
    have hrests : bs.map (fun e => ofItems (e.pieces.drop (n + 1)).flatten) ≠ [] := by
      simpa using hne
    rw [waysOfSome_factor hone hsplit, ways_ofItems, waysOfRow_append, waysOfRow_items, List.map_map]
    refine (Ways.Agrees.refl _).andThen ?_
    rw [← waysOfSome_flatMap_branches]
    exact agrees_join (flatMap_branches_ne_nil hrests)
  · exact agrees_join hne

/-! ## Repetitions -/

/-- What can match nothing but the empty text stands still. -/
theorem stands_ways {e : Expr} (hwf : e.WellFormed) (h : e.isEmptyOnly = true) : (e.ways text).Stands :=
  fun _ _ hs => (eq_of_isEmptyOnly h (matches_of_mem_ways hwf hs)).symm

/-- Repetitions of what stands still can be cut down to one round at most. -/
theorem agrees_cut {w : Ways} (hw : w.Stands) {min : Nat} {max : Option Nat} {greedy : Bool}
    (hbounds : ∀ m, max = some m → min ≤ m) :
    (w.times text min max greedy).Agrees
      (w.times text (Nat.min min 1) (some ((max.map (Nat.min · 1)).getD 1)) greedy) := by
  have hcut (n : Nat) : Nat.min (n + 1) 1 = 1 := Nat.min_eq_right (Nat.le_add_left 1 n)
  cases min with
  | zero =>
    -- optional rounds are as good as one of them
    have hone : w.upTo greedy 1 = Ways.prefer greedy w .stay := by
      rw [Ways.upTo, Ways.upTo, Ways.andThen_stay]
    cases max with
    | none => exact (Ways.Agrees.refl _).andThen ((hw.many text greedy).trans (.of_eq hone.symm))
    | some max =>
      cases max with
      | zero => exact .refl _
      | succ max =>
        rw [Option.map_some, Option.getD_some, hcut]
        exact (Ways.Agrees.refl _).andThen ((hw.upTo greedy max).trans (.of_eq hone.symm))
  | succ min =>
    have hround : w.times text 1 (some 1) greedy = w :=
      (Ways.andThen_stay _).trans (Ways.andThen_stay w)
    have hbound : (max.map (Nat.min · 1)).getD 1 = 1 := by
      cases max with
      | none => rfl
      | some max =>
        obtain ⟨m, rfl⟩ := Nat.exists_eq_add_of_le' (hbounds max rfl)
        exact hcut _
    rw [hcut, hbound, hround]
    -- the rounds that are needed are as good as one, and the others add nothing to it
    refine ((hw.copies min).andThen (.refl _)).trans ?_
    cases max with
    | none => exact ((Ways.Agrees.refl w).andThen (hw.many text greedy)).trans (hw.andThen_prefer greedy)
    | some max => exact hw.andThen_upTo greedy _

/-- A simplified repetition tries its ways in the order of the repetition. -/
theorem agrees_repeated {e : Expr} {min : Nat} {max : Option Nat} {greedy : Bool} (hwf : e.WellFormed)
    (hbounds : ∀ m, max = some m → min ≤ m) :
    ((e.ways text).times text min max greedy).Agrees ((repeated min max greedy e).ways text) := by
  unfold repeated
  extract_lets lo hi
  have hcut : ((e.ways text).times text min max greedy).Agrees ((e.ways text).times text lo hi greedy) := by
    by_cases he : e.isEmptyOnly = true
    · simp only [lo, hi, he, if_true]
      exact agrees_cut (stands_ways hwf he) hbounds
    · simp only [lo, hi, if_neg he]
      exact .refl _
  refine hcut.trans ?_
  -- no round and one round are not written as repetitions
  split
  · next h =>
    rw [h.1, h.2]
    exact .of_eq (Ways.stay_andThen _)
  · split
    · next h =>
      rw [h.1, h.2]
      exact .of_eq ((Ways.andThen_stay _).trans (Ways.andThen_stay _))
    · exact .refl _

end PatternGrammar.Regex.Expr
