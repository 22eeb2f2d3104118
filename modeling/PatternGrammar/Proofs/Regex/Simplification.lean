import PatternGrammar.Proofs.Regex.Matching

/-!
# Simplified expressions

Expressions are built in a simplified form: sequences are flattened, choices between characters become sets, common
beginnings are taken out of choices, and repetitions of what matches the empty text alone are cut short. None of this
changes what matches where, and every capture group of the result is one of the parts.
-/

namespace PatternGrammar

/-! ## Sets -/

namespace CharSet

theorem mem_bands (bs : List Unicode.Band) (c : Char) : (bands bs).mem c = Unicode.holds bs c.toNat := by
  cases hc : isAtSeam c.toNat with
  | false => simp only [mem, holds_of_not_isAtSeam hc, holdsApart]
  | true =>
    simp only [mem, holds_of_isAtSeam hc]
    rcases toNat_of_isAtSeam hc with h | h <;> rw [h] <;> rfl

theorem mem_empty (c : Char) : empty.mem c = false :=
  mem_bands [] c

theorem mem_union (s t : CharSet) (c : Char) : (union s t).mem c = (s.mem c || t.mem c) := by
  cases hc : isAtSeam c.toNat with
  | false => simp only [mem, holds_of_not_isAtSeam hc, holdsApart]
  | true =>
    simp only [mem, holds_of_isAtSeam hc]
    rcases toNat_of_isAtSeam hc with h | h <;> rw [h] <;> rfl

/-- The union of sets has the members of each. -/
theorem mem_unions (ss : List CharSet) (c : Char) : (unions ss).mem c = true ↔ ∃ s ∈ ss, s.mem c = true := by
  induction ss with
  | nil => simp [unions, mem_empty]
  | cons s ts ih =>
    cases ts with
    | nil => simp [unions]
    | cons t ts =>
      rw [unions, mem_union, Bool.or_eq_true, ih]
      simp

/-- Outside ASCII there is no member; the surrogates and their neighbours are outside. -/
theorem mem_asciiOnly (s : CharSet) (c : Char) : (asciiOnly s).mem c = true ↔ s.mem c = true ∧ c.toNat < 0x80 := by
  cases hc : isAtSeam c.toNat with
  | false =>
    simp only [mem, holds_of_not_isAtSeam hc, holdsApart, Bool.and_eq_true, decide_eq_true_eq]
    exact and_comm
  | true =>
    have hlo := (isAtSeam_iff.mp hc).1
    simp only [mem, holds_of_isAtSeam hc]
    constructor
    · intro h
      simp [seam, Seam.holds] at h
    · intro h
      omega

/-- The complement of a set that does not have both neighbours of the surrogates. -/
theorem mem_compl {s : CharSet} (hs : (s.seam.before && s.seam.after) = false) (c : Char) :
    (compl s).mem c = !s.mem c := by
  cases hc : isAtSeam c.toNat with
  | false => simp only [mem, holds_of_not_isAtSeam hc, holdsApart]
  | true =>
    simp only [mem, holds_of_isAtSeam hc, seam, Seam.compl, hs]
    rcases toNat_of_isAtSeam hc with h | h <;> rw [h] <;> rfl

end CharSet

namespace Regex.Expr

variable {text : Text}

/-! ## Rows -/

def MatchesRow (text : Text) : List Expr → Nat → Nat → Prop
  | [], i, j => i = j
  | e :: es, i, j => ∃ k, e.Matches text i k ∧ MatchesRow text es k j

theorem matchesRow_singleton {e : Expr} {i j : Nat} : MatchesRow text [e] i j ↔ e.Matches text i j := by
  simp [MatchesRow]

theorem matchesRow_append {es fs : List Expr} {i j : Nat} :
    MatchesRow text (es ++ fs) i j ↔ ∃ k, MatchesRow text es i k ∧ MatchesRow text fs k j := by
  induction es generalizing i with
  | nil => simp [MatchesRow]
  | cons e es ih =>
    simp only [List.cons_append, MatchesRow, ih]
    constructor
    · rintro ⟨k, hik, l, hkl, hlj⟩
      exact ⟨l, ⟨k, hik, hkl⟩, hlj⟩
    · rintro ⟨l, ⟨k, hik, hkl⟩, hlj⟩
      exact ⟨k, hik, l, hkl, hlj⟩

/-- The items of an expression match one after the other what it matches. -/
theorem matchesRow_items {e : Expr} {i j : Nat} : MatchesRow text e.items i j ↔ e.Matches text i j := by
  induction e generalizing i j with
  | empty => rfl
  | cat e f ihe ihf => simp only [items, matchesRow_append, ihe, ihf, Matches]
  | chars _ => exact matchesRow_singleton
  | assertion _ => exact matchesRow_singleton
  | alt _ _ _ _ => exact matchesRow_singleton
  | group _ _ _ => exact matchesRow_singleton
  | repetition _ _ _ _ _ => exact matchesRow_singleton

theorem matches_ofItems {es : List Expr} {i j : Nat} : (ofItems es).Matches text i j ↔ MatchesRow text es i j := by
  induction es generalizing i with
  | nil => rfl
  | cons e es ih =>
    cases es with
    | nil => exact matchesRow_singleton.symm
    | cons f es => simp only [ofItems, Matches, MatchesRow, ih]

/-- A simplified row matches what its items match one after the other. -/
theorem matches_sequence {es : List Expr} {i j : Nat} : (sequence es).Matches text i j ↔ MatchesRow text es i j := by
  rw [sequence, matches_ofItems]
  induction es generalizing i with
  | nil => rfl
  | cons e es ih => simp only [List.flatMap_cons, matchesRow_append, matchesRow_items, ih, MatchesRow]

/-! ## Choices -/

theorem branches_ne_nil (e : Expr) : e.branches ≠ [] := by
  induction e with
  | alt e f ihe _ => simp [branches, ihe]
  | _ => simp [branches]

theorem exists_mem_branches {e : Expr} {i j : Nat} : (∃ f ∈ e.branches, f.Matches text i j) ↔ e.Matches text i j := by
  induction e with
  | alt e f ihe ihf =>
    simp only [branches, List.mem_append, Matches, ← ihe, ← ihf]
    constructor
    · rintro ⟨g, hg | hg, hm⟩
      · exact .inl ⟨g, hg, hm⟩
      · exact .inr ⟨g, hg, hm⟩
    · rintro (⟨g, hg, hm⟩ | ⟨g, hg, hm⟩)
      · exact ⟨g, .inl hg, hm⟩
      · exact ⟨g, .inr hg, hm⟩
  | _ => simp [branches]

theorem exists_mem_flatMap_branches {es : List Expr} {i j : Nat} :
    (∃ f ∈ es.flatMap branches, f.Matches text i j) ↔ ∃ e ∈ es, e.Matches text i j := by
  simp only [List.mem_flatMap]
  constructor
  · rintro ⟨f, ⟨e, he, hf⟩, hm⟩
    exact ⟨e, he, exists_mem_branches.mp ⟨f, hf, hm⟩⟩
  · rintro ⟨e, he, hm⟩
    obtain ⟨f, hf, hfm⟩ := exists_mem_branches.mpr hm
    exact ⟨f, ⟨e, he, hf⟩, hfm⟩

theorem flatMap_branches_ne_nil {es : List Expr} (h : es ≠ []) : es.flatMap branches ≠ [] := by
  cases es with
  | nil => exact absurd rfl h
  | cons e es => simp [branches_ne_nil]

/-- A choice matches what one of its branches matches. -/
theorem matches_ofBranches {es : List Expr} (h : es ≠ []) {i j : Nat} :
    (ofBranches es).Matches text i j ↔ ∃ e ∈ es, e.Matches text i j := by
  induction es with
  | nil => exact absurd rfl h
  | cons e es ih =>
    cases es with
    | nil => simp [ofBranches]
    | cons f es =>
      rw [ofBranches, Matches, ih (by simp)]
      simp

/-- The sets of expressions that all are sets. -/
theorem mapM_set? {es : List Expr} {sets : List CharSet} (h : es.mapM set? = some sets) : es = sets.map chars := by
  induction es generalizing sets with
  | nil =>
    simp at h
    simp [h]
  | cons e es ih =>
    simp only [List.mapM_cons, Option.bind_eq_bind, Option.bind_eq_some_iff, Option.pure_def, Option.some.injEq] at h
    obtain ⟨s, hs, ss, hss, rfl⟩ := h
    cases e <;> simp [set?] at hs
    rw [List.map_cons, ih hss, hs]

/-- Joining branches to a set changes nothing about what they match. -/
theorem matches_join {es : List Expr} (h : es ≠ []) {i j : Nat} :
    (join es).Matches text i j ↔ ∃ e ∈ es, e.Matches text i j := by
  unfold join
  split
  · exact absurd rfl h
  · simp
  · split
    · rename_i sets hsets
      split
      · rw [mapM_set? hsets]
        simp only [Matches, ReadsOne, CharSet.mem_unions, List.mem_map]
        constructor
        · rintro ⟨hj, c, hc, s, hs, hmem⟩
          exact ⟨_, ⟨s, hs, rfl⟩, hj, c, hc, hmem⟩
        · rintro ⟨_, ⟨s, hs, rfl⟩, hj, c, hc, hmem⟩
          exact ⟨hj, c, hc, s, hs, hmem⟩
      · exact matches_ofBranches h
    · exact matches_ofBranches h

/-! ## Common beginnings -/

/-- Expressions that are the same up to the writing of sets match the same. -/
theorem matches_of_same {e f : Expr} (h : e.same f = true) (i j : Nat) : e.Matches text i j ↔ f.Matches text i j := by
  fun_induction same e f generalizing i j with
  | case1 => rfl
  | case2 s t =>
    exact ReadsOne.congr (fun c => by rw [CharSet.mem_eq_of_same h]) i j
  | case3 a b => rw [eq_of_beq h]
  | case4 e f g k ihe ihf =>
    rw [Bool.and_eq_true] at h
    simp only [Matches, ihe h.1, ihf h.2]
  | case5 e f g k ihe ihf =>
    rw [Bool.and_eq_true] at h
    simp only [Matches, ihe h.1, ihf h.2]
  | case6 m e n f ih =>
    rw [Bool.and_eq_true] at h
    exact ih h.2 i j
  | case7 lo hi greedy e lo' hi' greedy' f ih =>
    simp only [Bool.and_eq_true, beq_iff_eq] at h
    obtain ⟨⟨⟨rfl, rfl⟩, -⟩, hef⟩ := h
    have heq : e.Matches text = f.Matches text := by
      funext k l
      exact propext (ih hef k l)
    simp only [Matches, heq]
  | case8 => simp at h

/-- A function of rows that does not see how the sets in them are written. -/
def RespectsSame {α : Type} (F : List Expr → α) : Prop :=
  ∀ ⦃e f : Expr⦄ ⦃es fs : List Expr⦄, e.same f = true → F es = F fs → F (e :: es) = F (f :: fs)

variable (text) in
/-- How the sets in a row are written does not matter for what it matches. -/
theorem respectsSame_matchesRow : RespectsSame (MatchesRow text) := by
  intro e f es fs hsame hrest
  funext i j
  simp only [MatchesRow, matches_of_same hsame, hrest]

namespace RespectsSame

variable {α : Type} {F : List Expr → α}

/-- A piece may be exchanged for one that is the same. -/
theorem piece (hF : RespectsSame F) {p q : Piece} (h : p.same q = true) {es fs : List Expr}
    (hrest : F es = F fs) : F (p ++ es) = F (q ++ fs) := by
  induction p generalizing q with
  | nil =>
    cases q with
    | nil => exact hrest
    | cons f fs => simp [Piece.same] at h
  | cons e p ih =>
    cases q with
    | nil => simp [Piece.same] at h
    | cons f q =>
      simp only [Piece.same, List.length_cons, List.zip_cons_cons, List.all_cons, Bool.and_eq_true, beq_iff_eq,
        Nat.add_right_cancel_iff] at h
      have hpieces : Piece.same p q = true := by
        simp only [Piece.same, Bool.and_eq_true, beq_iff_eq]
        exact ⟨h.1, h.2.2⟩
      exact hF h.2.1 (ih hpieces)

/-- Two lists of pieces are not told apart as far as they share pieces. -/
theorem shared (hF : RespectsSame F) {ps qs : List Piece} {n : Nat} (h : n ≤ sharedPieces ps qs) :
    F (ps.take n).flatten = F (qs.take n).flatten := by
  fun_induction sharedPieces ps qs generalizing n with
  | case1 p ps q qs hsame ih =>
    cases n with
    | zero => rfl
    | succ n =>
      simp only [List.take_succ_cons, List.flatten_cons]
      exact hF.piece hsame (ih (Nat.le_of_succ_le_succ h))
  | case2 =>
    rw [Nat.le_zero.mp h, List.take_zero, List.take_zero]
  | case3 =>
    rw [Nat.le_zero.mp h, List.take_zero, List.take_zero]

end RespectsSame

/-- The bound found by going through the branches is one for each of them. -/
theorem le_sharedPieces_of_foldl {first : List Piece} {others : List (List Piece)} {start n : Nat}
    (h : n = others.foldl (fun n ps => Nat.min n (sharedPieces (first.take n) ps)) start) :
    n ≤ start ∧ ∀ ps ∈ others, ∃ m, n ≤ m ∧ n ≤ sharedPieces (first.take m) ps := by
  induction others generalizing start with
  | nil => simp [h]
  | cons qs others ih =>
    obtain ⟨hle, hall⟩ := ih h
    refine ⟨Nat.le_trans hle (Nat.min_le_left _ _), fun ps hps => ?_⟩
    rcases List.mem_cons.mp hps with rfl | hps
    · exact ⟨start, Nat.le_trans hle (Nat.min_le_left _ _), Nat.le_trans hle (Nat.min_le_right _ _)⟩
    · exact hall ps hps

/-- All branches begin with the pieces that they have in common. -/
theorem RespectsSame.commonPieces {α : Type} {F : List Expr → α} (hF : RespectsSame F)
    {first ps : List Piece} {others : List (List Piece)} (hps : ps ∈ first :: others) :
    F (ps.take (commonPieces (first :: others))).flatten =
      F (first.take (commonPieces (first :: others))).flatten := by
  generalize hn : Expr.commonPieces (first :: others) = n
  simp only [Expr.commonPieces] at hn
  split at hn
  · rcases List.mem_cons.mp hps with rfl | hps
    · rfl
    · obtain ⟨m, hnm, hshared⟩ := (le_sharedPieces_of_foldl hn.symm).2 ps hps
      have h := hF.shared hshared
      rw [List.take_take, Nat.min_eq_left hnm] at h
      exact h.symm
  · rw [← hn, List.take_zero, List.take_zero]

/-- A choice matches what one of its branches matches, also where a common beginning of the branches is taken out in
front. -/
theorem matches_choice {es : List Expr} (h : es ≠ []) {i j : Nat} :
    (choice es).Matches text i j ↔ ∃ e ∈ es, e.Matches text i j := by
  have hne := flatMap_branches_ne_nil h
  rw [← exists_mem_flatMap_branches, choice]
  generalize es.flatMap branches = bs at hne ⊢
  split
  · rename_i first others n hparts hcommon
    -- a branch is the common beginning, and what is left of the branch behind that
    have hsplit (e : Expr) (he : e ∈ bs) : e.Matches text i j ↔
        ∃ k, MatchesRow text (first.take (n + 1)).flatten i k ∧
          (ofItems (e.pieces.drop (n + 1)).flatten).Matches text k j := by
      have hmem : e.pieces ∈ first :: others := hparts ▸ List.mem_map_of_mem he
      have hbegin := (respectsSame_matchesRow text).commonPieces hmem
      rw [← hparts, hcommon] at hbegin
      rw [← matchesRow_items, ← flatten_pieces, ← List.take_append_drop (n + 1) e.pieces, List.flatten_append,
        matchesRow_append, List.take_append_drop]
      simp only [hbegin, matches_ofItems]
    have hrests : bs.map (fun e => ofItems (e.pieces.drop (n + 1)).flatten) ≠ [] := by
      simpa using hne
    rw [matches_ofItems, matchesRow_append, List.map_map]
    simp only [matchesRow_items, matches_join (flatMap_branches_ne_nil hrests), Function.comp_def,
      exists_mem_flatMap_branches, List.mem_map]
    constructor
    · rintro ⟨k, hik, _, ⟨e, he, rfl⟩, hkj⟩
      exact ⟨e, he, (hsplit e he).mpr ⟨k, hik, hkj⟩⟩
    · rintro ⟨e, he, hij⟩
      obtain ⟨k, hik, hkj⟩ := (hsplit e he).mp hij
      exact ⟨k, hik, _, ⟨e, he, rfl⟩, hkj⟩
  · exact matches_join hne

/-! ## Repetitions -/

theorem Within.zero_iff {min : Nat} {max : Option Nat} : Within min max 0 ↔ min = 0 := by
  simp [Within]

/-- What can match nothing but the empty text matches it only. -/
theorem eq_of_isEmptyOnly {e : Expr} (h : e.isEmptyOnly = true) {i j : Nat}
    (hm : e.Matches text i j) : i = j := by
  induction e generalizing i j with
  | empty => exact hm
  | chars _ => simp [isEmptyOnly] at h
  | assertion _ => exact hm.1
  | cat e f ihe ihf =>
    rw [isEmptyOnly, Bool.and_eq_true] at h
    obtain ⟨k, hik, hkj⟩ := hm
    exact (ihe h.1 hik).trans (ihf h.2 hkj)
  | alt e f ihe ihf =>
    rw [isEmptyOnly, Bool.and_eq_true] at h
    exact hm.elim (ihe h.1) (ihf h.2)
  | group _ e ih => exact ih h hm
  | repetition min max _ e ih =>
    obtain ⟨n, ⟨-, hmax⟩, htimes⟩ := hm
    rw [isEmptyOnly, Bool.or_eq_true, beq_iff_eq] at h
    rcases h with h | h
    · rw [Nat.le_zero.mp (hmax 0 h)] at htimes
      exact htimes
    · exact htimes.closed (fun _ => rfl) fun hik hkj => (ih h hik).trans hkj

/-- What matches nothing but the empty text matches at a place any number of times or not at all. -/
theorem times_iff_of_isEmptyOnly {e : Expr} (h : e.isEmptyOnly = true) {n i j : Nat} :
    Times (e.Matches text) (n + 1) i j ↔ i = j ∧ e.Matches text i i := by
  constructor
  · rintro ⟨k, hik, hkj⟩
    obtain rfl : i = k := eq_of_isEmptyOnly h hik
    exact ⟨hkj.closed (fun _ => rfl) fun hfirst hrest => (eq_of_isEmptyOnly h hfirst).trans hrest, hik⟩
  · rintro ⟨rfl, hii⟩
    induction n with
    | zero => exact ⟨i, hii, rfl⟩
    | succ n ih => exact ⟨i, hii, ih⟩

/-- Cutting bounds down to one match keeps whether no match is allowed, and whether some number of matches is. Bounds
the wrong way round allow no number of matches, but once cut down they may. -/
theorem within_cut {min : Nat} {max : Option Nat} (hbounds : ∀ m, max = some m → min ≤ m) (n : Nat) :
    Within (Nat.min min 1) (some ((max.map (Nat.min · 1)).getD 1)) n ↔
      n = 0 ∧ min = 0 ∨ n = 1 ∧ ∃ k, Within min max (k + 1) := by
  have hmin (a b : Nat) : Nat.min a b = Min.min a b := rfl
  simp only [Within, Option.some.injEq, hmin]
  constructor
  · rintro ⟨hlo, hhi⟩
    have hn := hhi _ rfl
    rcases Nat.eq_zero_or_pos n with rfl | hpos
    · exact .inl ⟨rfl, by omega⟩
    · cases max with
      | none => exact .inr ⟨by simp at hn; omega, min, by omega, by simp⟩
      | some m =>
        have := hbounds m rfl
        simp only [Option.map_some, Option.getD_some] at hn
        refine .inr ⟨by omega, m - 1, by omega, fun b hb => ?_⟩
        rw [← Option.some.inj hb]
        omega
  · rintro (⟨rfl, rfl⟩ | ⟨rfl, k, hlo, hhi⟩)
    · simp
    · refine ⟨by omega, fun b hb => ?_⟩
      cases max with
      | none => simp at hb; omega
      | some m =>
        have := hhi m rfl
        simp only [Option.map_some, Option.getD_some] at hb
        omega

/-- A simplified repetition matches what the repetition matches. -/
theorem matches_repeated {min : Nat} {max : Option Nat} {greedy : Bool} {e : Expr}
    (hbounds : ∀ m, max = some m → min ≤ m) {i j : Nat} :
    (repeated min max greedy e).Matches text i j ↔
      ∃ n, Within min max n ∧ Times (e.Matches text) n i j := by
  unfold repeated
  extract_lets lo hi
  -- the bounds are cut for a body that matches the empty text alone
  have hcut : (∃ n, Within lo hi n ∧ Times (e.Matches text) n i j) ↔
      ∃ n, Within min max n ∧ Times (e.Matches text) n i j := by
    by_cases he : e.isEmptyOnly = true
    · simp only [lo, hi, he, if_true, within_cut hbounds]
      constructor
      · rintro ⟨n, ⟨rfl, hzero⟩ | ⟨rfl, k, hk⟩, htimes⟩
        · exact ⟨0, Within.zero_iff.mpr hzero, htimes⟩
        · rw [times_iff_of_isEmptyOnly he] at htimes
          exact ⟨k + 1, hk, (times_iff_of_isEmptyOnly he).mpr htimes⟩
      · rintro ⟨n, hn, htimes⟩
        cases n with
        | zero => exact ⟨0, .inl ⟨rfl, Within.zero_iff.mp hn⟩, htimes⟩
        | succ k =>
          rw [times_iff_of_isEmptyOnly he] at htimes
          exact ⟨1, .inr ⟨rfl, k, hn⟩, (times_iff_of_isEmptyOnly he).mpr htimes⟩
    · simp only [lo, hi, if_neg he]
  rw [← hcut]
  -- no match and one match are not written as repetitions
  split
  · rename_i h
    rw [h.1, h.2]
    constructor
    · intro hij
      exact ⟨0, by simp [Within], hij⟩
    · rintro ⟨n, ⟨-, hn⟩, htimes⟩
      rw [Nat.le_zero.mp (hn 0 rfl)] at htimes
      exact htimes
  · split
    · rename_i h
      rw [h.1, h.2]
      constructor
      · intro hij
        exact ⟨1, by simp [Within], j, hij, rfl⟩
      · rintro ⟨n, ⟨hlo, hhi⟩, htimes⟩
        obtain rfl : n = 1 := Nat.le_antisymm (hhi 1 rfl) hlo
        obtain ⟨k, hik, rfl⟩ := htimes
        exact hik
    · rfl

end Regex.Expr

end PatternGrammar
