import Mathlib.Data.List.Basic
import PatternGrammar.Proofs.Characters
import PatternGrammar.Proofs.Grammar.Steps
import PatternGrammar.Proofs.Text.Letters

/-!
# Letters in a row

The parser of a character takes the first one of its letter out of a text, wherever that stands. Such parsers in a row
take as many of each letter as there are parsers of it, so that their order does not matter
(`Grammar.letters_any_order`).
-/

namespace PatternGrammar

namespace Grammar

open Text

variable {ν : Type} {τ : ν → Type} {body : (name : ν) → Grammar τ (τ name)} {α β γ : Type} {cs ds input : Text}

/-- The parsers of some characters in a row, each of which gives its character. -/
inductive LettersInRow (τ : ν → Type) : Text → {α : Type} → Grammar τ α → Prop where
  | single {c : Char} {g : Grammar τ Char} (hg : ofPattern .standard (Pattern.literal c) (.constant c) = .ok g) :
    LettersInRow τ [c] g
  | keepRight {cs ds : Text} {α β : Type} {p : Grammar τ α} {q : Grammar τ β} (hp : LettersInRow τ cs p)
      (hq : LettersInRow τ ds q) :
    LettersInRow τ (cs ++ ds) (keepRight p q)
  | tuple2 {cs ds : Text} {α β : Type} {p : Grammar τ α} {q : Grammar τ β} (hp : LettersInRow τ cs p)
      (hq : LettersInRow τ ds q) :
    LettersInRow τ (cs ++ ds) (tuple2 p q)

/-- Every character has a parser, so that all characters of a text can be parsed in a row. -/
theorem exists_lettersInRow (hcs : cs ≠ []) : ∃ g : Grammar τ Char, LettersInRow τ cs g := by
  have hsingle (c : Char) : ∃ g : Grammar τ Char, LettersInRow τ [c] g :=
    ⟨_, .single (by rw [ofPattern, Pattern.compile_literal])⟩
  induction cs with
  | nil => contradiction
  | cons c cs ih =>
    obtain ⟨p, hp⟩ := hsingle c
    rcases eq_or_ne cs [] with rfl | hne
    · exact ⟨p, hp⟩
    · obtain ⟨q, hq⟩ := ih hne
      exact ⟨_, hp.keepRight hq⟩

/-! ## What the parsers take -/

/-- A grammar takes the first letters out of a text, as many of each as `cs` has, and fails where there are fewer. -/
structure TakesOut (body : (name : ν) → Grammar τ (τ name)) (g : Grammar τ α) (cs : Text) : Prop where
  succeeds : ∀ input, (∀ c, cs.letterCount c ≤ letterCount input c) →
    ∃ a, g.Ends body input (some (a, withoutFirst cs [] input))
  fails : ∀ input c, letterCount input c < cs.letterCount c → g.Ends body input none

namespace TakesOut

/-- Only the counts of letters matter, not the order. -/
theorem congr {g : Grammar τ α} (hg : g.TakesOut body cs) (h : ∀ c, cs.letterCount c = ds.letterCount c) :
    g.TakesOut body ds where
  succeeds input hle := by
    rw [← withoutFirst_congr h]
    exact hg.succeeds input fun c => h c ▸ hle c
  fails input c hlt := hg.fails input c (h c ▸ hlt)

/-- A grammar that takes letters out fails exactly if the text has too few of one. -/
theorem ends_none_iff {g : Grammar τ α} (hg : g.TakesOut body cs) :
    g.Ends body input none ↔ ∃ c, input.letterCount c < cs.letterCount c := by
  refine ⟨fun hends => ?_, fun ⟨c, hlt⟩ => hg.fails input c hlt⟩
  by_contra hnone
  obtain ⟨a, ha⟩ := hg.succeeds input fun c => Nat.le_of_not_lt fun hlt => hnone ⟨c, hlt⟩
  cases hends.unique ha

/-- A grammar that takes letters out succeeds exactly if the text has enough of each, and leaves the others. -/
theorem ends_some_iff {g : Grammar τ α} (hg : g.TakesOut body cs) {rest : Text} :
    (∃ a, g.Ends body input (some (a, rest))) ↔
      (∀ c, cs.letterCount c ≤ input.letterCount c) ∧ rest = withoutFirst cs [] input := by
  constructor
  · rintro ⟨a, ha⟩
    have hle : ∀ c, cs.letterCount c ≤ input.letterCount c := fun c =>
      Nat.le_of_not_lt fun hlt => nomatch ha.unique (hg.fails input c hlt)
    obtain ⟨b, hb⟩ := hg.succeeds input hle
    cases ha.unique hb
    exact ⟨hle, rfl⟩
  · rintro ⟨hle, rfl⟩
    exact hg.succeeds input hle

/-- Two parsers in a row take what each of them takes, if the second one gives nothing back. -/
theorem of {S : Sequencing α β γ} (hleft : ∀ a rest y, ∃ e, S.result a rest y = (e, y.2)) {p : Grammar τ α}
    {q : Grammar τ β} (hp : p.TakesOut body cs) (hq : q.TakesOut body ds) : (S.of p q).TakesOut body (cs ++ ds) where
  succeeds input hle := by
    simp only [letterCount_append] at hle
    obtain ⟨a, ha⟩ := hp.succeeds input fun c => Nat.le_of_add_right_le (hle c)
    obtain ⟨b, hb⟩ := hq.succeeds (withoutFirst cs [] input) fun c => by
      rw [letterCount_withoutFirst_nil]
      exact Nat.le_sub_of_add_le' (hle c)
    obtain ⟨e, he⟩ := hleft a (withoutFirst cs [] input) (b, withoutFirst ds [] (withoutFirst cs [] input))
    refine ⟨e, S.ends_of.mpr (.inr ⟨a, _, _, ha, hb, ?_⟩)⟩
    rw [Option.map_some, he, withoutFirst_append]
  fails input c hlt := by
    rw [letterCount_append] at hlt
    by_cases hle : ∀ c, cs.letterCount c ≤ input.letterCount c
    · obtain ⟨a, ha⟩ := hp.succeeds input hle
      refine S.ends_of.mpr (.inr ⟨a, _, none, ha, hq.fails _ c ?_, rfl⟩)
      rw [letterCount_withoutFirst_nil]
      exact Nat.sub_lt_left_of_lt_add (hle c) hlt
    · obtain ⟨d, hd⟩ := not_forall.mp hle
      exact S.ends_of.mpr (.inl ⟨hp.fails input d (Nat.lt_of_not_le hd), rfl⟩)

end TakesOut

/-- The parser of a character takes one of its letter. -/
theorem takesOut_literal {c : Char} {g : Grammar τ Char}
    (hg : ofPattern .standard (Pattern.literal c) (.constant c) = .ok g) : g.TakesOut body [c] := by
  obtain ⟨p, hp⟩ : ∃ p, Pattern.compile .standard (Pattern.literal c) = .ok p := ⟨_, Pattern.compile_literal c⟩
  obtain rfl : regex p (.constant c) = g := by
    rw [ofPattern, hp] at hg
    exact Except.ok.inj hg
  have hstripped := Pattern.stripped_of_literal hp
  constructor
  · intro input hle
    have htext := hstripped input
    rw [if_pos (letterCount_pos_iff.mp (letterCount_singleton_le_iff.mp hle))] at htext
    obtain ⟨x, hx, hleft⟩ := Option.map_eq_some_iff.mp htext
    have hsome : (regex p (.constant c) : Grammar τ Char).Ends body input _ := ends_regex p _ input
    rw [hx, Option.map_some, hleft, ← withoutFirst_singleton (letterCount_nil c)] at hsome
    exact ⟨c, hsome⟩
  · intro input d hlt
    have hmissing : ¬ (input.any fun d => decide (SameLetter c d)) = true := fun hany =>
      Nat.not_le_of_lt hlt (letterCount_singleton_le_iff.mpr (letterCount_pos_iff.mpr hany) d)
    have htext := hstripped input
    rw [if_neg hmissing, Option.map_eq_none_iff] at htext
    have hnone : (regex p (.constant c) : Grammar τ Char).Ends body input _ := ends_regex p _ input
    rwa [htext] at hnone

/-- Letters in a row take each letter as often as it is one of them. -/
theorem LettersInRow.takesOut (body : (name : ν) → Grammar τ (τ name)) {g : Grammar τ α}
    (hg : LettersInRow τ cs g) : g.TakesOut body cs := by
  induction hg with
  | single hg => exact takesOut_literal hg
  | keepRight _ _ ihp ihq => exact .of (S := .keepRight) (fun _ _ _ => ⟨_, rfl⟩) ihp ihq
  | tuple2 _ _ ihp ihq => exact .of (S := .tuple2) (fun _ _ _ => ⟨_, rfl⟩) ihp ihq

/-- The parsers of some characters can be run in a row in any order: they fail where a letter is missing, and otherwise
leave the text without the first occurrences of each letter, as many as it has parsers. -/
theorem letters_any_order :
    (∀ cs : Text, cs ≠ [] → ∃ g : Grammar τ Char, LettersInRow τ cs g) ∧
      ∀ {cs ds : Text} {α β : Type} {g : Grammar τ α} {h : Grammar τ β}, LettersInRow τ cs g → LettersInRow τ ds h →
        cs.Perm ds → ∀ input : Text,
          (g.Ends body input none ↔ ∃ c, input.letterCount c < cs.letterCount c) ∧
          (∀ rest, (∃ a, g.Ends body input (some (a, rest))) ↔
            (∀ c, cs.letterCount c ≤ input.letterCount c) ∧ rest = withoutFirst cs [] input) ∧
          (h.Ends body input none ↔ g.Ends body input none) ∧
          ∀ rest, (∃ b, h.Ends body input (some (b, rest))) ↔ ∃ a, g.Ends body input (some (a, rest)) := by
  refine ⟨fun cs hcs => exists_lettersInRow hcs, fun hg hh hperm input => ?_⟩
  have hg' := hg.takesOut body
  have hh' := (hh.takesOut body).congr fun c => (letterCount_perm hperm c).symm
  refine ⟨hg'.ends_none_iff, fun rest => hg'.ends_some_iff, ?_, fun rest => ?_⟩
  · rw [hh'.ends_none_iff, hg'.ends_none_iff]
  · rw [hh'.ends_some_iff, hg'.ends_some_iff]

/-- A letter is taken twice, in whatever case it stands there, and an opening bracket between; a text with only one of
the letters is not parsed. -/
theorem letters_any_order_twice :
    ∃ (body : Unit → Grammar (fun _ : Unit => Char) Char) (g h : Grammar (fun _ : Unit => Char) Char),
      LettersInRow (fun _ : Unit => Char) ['a', '(', 'A'] g ∧ LettersInRow (fun _ : Unit => Char) ['A', 'a', '('] h ∧
        (∃ a, g.Ends body "xA(b)aA".toList (some (a, "xb)A".toList))) ∧
        (∃ a, h.Ends body "xA(b)aA".toList (some (a, "xb)A".toList))) ∧
        g.Ends body "a(".toList none ∧ h.Ends body "a(".toList none := by
  let body : Unit → Grammar (fun _ : Unit => Char) Char := fun _ => fail
  obtain ⟨hrow, hends⟩ := @letters_any_order _ _ body
  obtain ⟨g, hg⟩ := hrow ['a', '(', 'A'] (by simp)
  obtain ⟨h, hh⟩ := hrow ['A', 'a', '('] (by simp)
  have hperm : List.Perm ['a', '(', 'A'] ['A', 'a', '('] := by decide
  obtain ⟨-, hsome, -, hsame⟩ := hends hg hh hperm "xA(b)aA".toList
  obtain ⟨hnone, -, hsame', -⟩ := hends hg hh hperm "a(".toList
  have hgEnds := (hsome _).mpr ⟨letterCount_le_iff.mpr (List.forall_iff_forall_mem.mp (by decide)), rfl⟩
  have hgFails := hnone.mpr ⟨'a', by decide⟩
  exact ⟨body, g, h, hg, hh, hgEnds, (hsame _).mpr hgEnds, hgFails, hsame'.mpr hgFails⟩

end Grammar

end PatternGrammar
