import PatternGrammar.Proofs.CharSet.Caseless
import PatternGrammar.Text

/-!
# Letters of a text

A letter is a character in any case. Of each letter some first occurrences may be deleted from a text: the same number
in two goes as in one (`withoutFirst_withoutFirst`), so that it does not matter in which order they are chosen.
-/

namespace PatternGrammar

def Text.letterCount (text : Text) (c : Char) : Nat :=
  text.countP fun d => decide (SameLetter c d)

/-- A text without the first occurrences of each letter, as many as `cs` has. Those in `before`, which stands before the
text, are counted, too. -/
def withoutFirst (cs : Text) : Text → Text → Text
  | _, [] => []
  | before, c :: text =>
    let rest := withoutFirst cs (c :: before) text
    if before.letterCount c < cs.letterCount c then rest else c :: rest

/-! ## Counting -/

namespace Text

variable {text : Text} {c d : Char}

theorem letterCount_nil (c : Char) : letterCount [] c = 0 := rfl

theorem letterCount_append (s t : Text) (c : Char) : letterCount (s ++ t) c = s.letterCount c + t.letterCount c :=
  List.countP_append

theorem letterCount_cons_same (h : SameLetter c d) : letterCount (d :: text) c = text.letterCount c + 1 :=
  List.countP_cons_of_pos (decide_eq_true h)

theorem letterCount_cons_other (h : ¬ SameLetter c d) : letterCount (d :: text) c = text.letterCount c :=
  List.countP_cons_of_neg (by simpa using h)

/-- Characters of the same letter are counted alike. -/
theorem letterCount_congr (text : Text) (h : SameLetter c d) : text.letterCount c = text.letterCount d := by
  have hsame : (fun e => decide (SameLetter c e)) = fun e => decide (SameLetter d e) := by
    funext e
    rw [decide_eq_decide]
    exact ⟨h.symm.trans, h.trans⟩
  rw [letterCount, hsame, letterCount]

/-- A letter stands in a text if some character of it does. -/
theorem letterCount_pos_iff : 0 < text.letterCount c ↔ (text.any fun d => decide (SameLetter c d)) = true := by
  rw [letterCount, List.countP_pos_iff, List.any_eq_true]

/-- Only the letters that a text has are to be counted. -/
theorem letterCount_le_iff {cs : Text} :
    (∀ c, cs.letterCount c ≤ text.letterCount c) ↔ ∀ c ∈ cs, cs.letterCount c ≤ text.letterCount c := by
  refine ⟨fun h c _ => h c, fun h c => ?_⟩
  rcases Nat.eq_zero_or_pos (cs.letterCount c) with hzero | hpos
  · rw [hzero]
    exact Nat.zero_le _
  · obtain ⟨d, hd, hsame⟩ := List.any_eq_true.mp (letterCount_pos_iff.mp hpos)
    have hcd : SameLetter c d := of_decide_eq_true hsame
    rw [letterCount_congr cs hcd, letterCount_congr text hcd]
    exact h d hd

theorem letterCount_singleton_le_iff : (∀ d, letterCount [c] d ≤ text.letterCount d) ↔ 0 < text.letterCount c := by
  rw [letterCount_le_iff, List.forall_mem_singleton, letterCount_cons_same rfl, letterCount_nil]
  exact Nat.succ_le_iff

/-- The order of a text does not matter for its counts. -/
theorem letterCount_perm {cs ds : Text} (h : cs.Perm ds) (c : Char) : letterCount cs c = letterCount ds c :=
  h.countP_eq _

end Text

open Text

variable {cs ds : Text} {before before' : Text}

/-! ## Deleting first occurrences -/

/-- Only the numbers of letters matter. -/
theorem withoutFirst_congr (h : ∀ c, letterCount cs c = letterCount ds c) (before text : Text) :
    withoutFirst cs before text = withoutFirst ds before text := by
  induction text generalizing before with
  | nil => rfl
  | cons c text ih => rw [withoutFirst, withoutFirst, ih, h]

/-- Nothing is deleted any more where enough of each letter stands before. -/
theorem withoutFirst_of_le (h : ∀ c, letterCount cs c ≤ before.letterCount c) (text : Text) :
    withoutFirst cs before text = text := by
  induction text generalizing before with
  | nil => rfl
  | cons c text ih =>
    rw [withoutFirst, if_neg (Nat.not_lt.mpr (h c)), ih]
    intro d
    refine Nat.le_trans (h d) ?_
    exact List.Sublist.countP_le (List.sublist_cons_self c before)

/-- Of one letter the first occurrence is deleted. -/
theorem withoutFirst_singleton {c : Char} (h : before.letterCount c = 0) (text : Text) :
    withoutFirst [c] before text = text.eraseP fun d => decide (SameLetter c d) := by
  induction text generalizing before with
  | nil => rfl
  | cons d text ih =>
    rw [withoutFirst]
    by_cases hd : SameLetter c d
    · have hlt : before.letterCount d < letterCount [c] d := by
        rw [letterCount_cons_same hd.symm, ← letterCount_congr before hd, h]
        exact Nat.succ_pos _
      rw [if_pos hlt, List.eraseP_cons_of_pos (p := fun d => decide (SameLetter c d)) (decide_eq_true hd)]
      -- the letter is not to be deleted once more
      refine withoutFirst_of_le (fun e => ?_) text
      by_cases he : SameLetter e c
      · rw [letterCount_cons_same he, letterCount_cons_same (he.trans hd), letterCount_nil]
        exact Nat.succ_le_succ (Nat.zero_le _)
      · rw [letterCount_cons_other he]
        exact Nat.zero_le _
    · have hnone : letterCount [c] d = 0 := letterCount_cons_other fun h => hd h.symm
      rw [hnone, if_neg (Nat.not_lt_zero _), List.eraseP_cons_of_neg (by simpa using hd), ih]
      rw [letterCount_cons_other hd, h]

/-- Deleting twice is deleting at once. What stands before the text that is left is what stood before and was not
deleted. -/
theorem withoutFirst_withoutFirst (h : ∀ c, before'.letterCount c = before.letterCount c - letterCount cs c)
    (text : Text) : withoutFirst ds before' (withoutFirst cs before text) = withoutFirst (cs ++ ds) before text := by
  induction text generalizing before before' with
  | nil => rfl
  | cons c text ih =>
    rw [withoutFirst, withoutFirst, letterCount_append]
    by_cases hlt : before.letterCount c < letterCount cs c
    · rw [if_pos hlt, if_pos (Nat.lt_add_right _ hlt), ih]
      intro d
      by_cases hd : SameLetter d c
      · have hcd := letterCount_congr before hd
        have hcs := letterCount_congr cs hd
        rw [letterCount_cons_same hd, h d]
        omega
      · rw [letterCount_cons_other hd, h d]
    · have hnext : ∀ d, letterCount (c :: before') d = letterCount (c :: before) d - letterCount cs d := by
        intro d
        by_cases hd : SameLetter d c
        · have hcd := letterCount_congr before hd
          have hcs := letterCount_congr cs hd
          rw [letterCount_cons_same hd, letterCount_cons_same hd, h d]
          omega
        · rw [letterCount_cons_other hd, letterCount_cons_other hd, h d]
      have hiff : before'.letterCount c < letterCount ds c ↔
          before.letterCount c < letterCount cs c + letterCount ds c := by
        rw [h c]
        omega
      rw [if_neg hlt, withoutFirst, ih hnext]
      simp only [hiff]

theorem letterCount_withoutFirst (cs before text : Text) (c : Char) :
    (withoutFirst cs before text).letterCount c =
      text.letterCount c - (letterCount cs c - before.letterCount c) := by
  induction text generalizing before with
  | nil => rw [withoutFirst, letterCount_nil, Nat.zero_sub]
  | cons d text ih =>
    rw [withoutFirst]
    by_cases hd : SameLetter c d
    · have hbefore := letterCount_congr before hd
      have hcs := letterCount_congr cs hd
      have hnext := ih (d :: before)
      rw [letterCount_cons_same hd] at hnext
      split
      · rw [hnext, letterCount_cons_same hd]
        omega
      · rw [letterCount_cons_same hd, hnext, letterCount_cons_same hd]
        omega
    · have hnext := ih (d :: before)
      rw [letterCount_cons_other hd] at hnext
      rw [letterCount_cons_other hd]
      split
      · exact hnext
      · rw [letterCount_cons_other hd, hnext]

/-! ## All of a text -/

theorem letterCount_withoutFirst_nil (cs text : Text) (c : Char) :
    (withoutFirst cs [] text).letterCount c = text.letterCount c - cs.letterCount c := by
  rw [letterCount_withoutFirst, letterCount_nil, Nat.sub_zero]

/-- Deleting one text and then another deletes both. -/
theorem withoutFirst_append (cs ds text : Text) :
    withoutFirst (cs ++ ds) [] text = withoutFirst ds [] (withoutFirst cs [] text) := by
  refine (withoutFirst_withoutFirst (fun c => ?_) text).symm
  rw [letterCount_nil, Nat.zero_sub]

end PatternGrammar
