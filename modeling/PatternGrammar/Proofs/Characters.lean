import Mathlib.Data.List.Basic
import PatternGrammar.Proofs.CharSet.Caseless
import PatternGrammar.Proofs.Extraction

/-!
# Patterns of one character

A character is a pattern that takes the first one of the same letter out of a text.
-/

namespace PatternGrammar.Pattern

open Regex

variable {p : Pattern}

/-! ## Sets -/

/-- A pattern that stands for a set takes the first character of the set out of a text. -/
theorem stripped_of_chars {s : CharSet} {groups : Nat} (hprogram : p.program = .ofExpr (.chars s) groups)
    (query : Text) :
    (p.extract query).map (·.stripped) = if query.any s.mem then some (query.eraseP s.mem) else none := by
  cases hx : p.extract query with
  | none =>
    have hnone := (extract_eq_none_iff hprogram trivial).mp hx
    have hany : query.any s.mem = false := by
      rw [List.any_eq_false]
      intro c hc hmem
      obtain ⟨i, hi, hget⟩ := List.mem_iff_getElem.mp hc
      refine hnone i (i + 1) (Nat.le_succ i) hi ⟨rfl, c, ?_, hmem⟩
      rw [List.getElem?_eq_getElem hi, hget]
    rw [hany]
    rfl
  | some x =>
    obtain ⟨pre, m, post, hquery, hstripped, ⟨hlength, c, hget, hmem⟩, hfirst⟩ :=
      exists_cut_of_extract hprogram trivial hx
    obtain ⟨d, rfl⟩ : ∃ d, m = [d] := List.length_eq_one_iff.mp (by omega)
    have hd : s.mem d = true := by
      rw [hquery, List.append_assoc, List.getElem?_append_right (Nat.le_refl _), Nat.sub_self] at hget
      exact Option.some.inj hget ▸ hmem
    -- a member of the set before the match would be a match
    have hpre : ∀ a ∈ pre, ¬ s.mem a = true := by
      intro a ha hmem'
      obtain ⟨i, hi, hget'⟩ := List.mem_iff_getElem.mp ha
      refine hfirst i (i + 1) hi ⟨rfl, a, ?_, hmem'⟩
      rw [hquery, List.append_assoc, List.getElem?_append_left hi, List.getElem?_eq_getElem hi, hget']
    have hany : query.any s.mem = true :=
      List.any_eq_true.mpr ⟨d, by rw [hquery]; simp, hd⟩
    rw [if_pos hany, Option.map_some, hstripped, hquery, List.append_assoc, List.eraseP_append_right _ hpre]
    exact congrArg some (congrArg (pre ++ ·) (List.eraseP_cons_of_pos hd).symm)

/-! ## Literals -/

def metacharacters : List Char :=
  ['\\', '.', '+', '*', '?', '(', ')', '|', '[', ']', '{', '}', '^', '$', '#', '&', '-', '~']

/-- The pattern of a character: itself, behind a backslash if it would mean something else. -/
def literal (c : Char) : Text :=
  if c ∈ metacharacters then ['\\', c] else [c]

/-- A backslash takes the meaning of a metacharacter away. -/
theorem readEscape_metacharacter {c : Char} (hc : c ∈ metacharacters) :
    readEscape false ['\\', c] [c] = .ok (.literal ⟨.between ['\\', c] [], c, false⟩, []) := by
  have hplain : ∀ c ∈ metacharacters, c.isDigit = false ∧ c ∉ ['x', 'u', 'U', 'p', 'P', 'b'] ∧
      shortEscape? c = none ∧ controlEscape? c = none ∧ assertionEscape? c = none ∧ isEscapable c = true :=
    List.forall_iff_forall_mem.mp (by decide)
  obtain ⟨hdigit, hletter, hshort, hcontrol, hassertion, hescapable⟩ := hplain c hc
  simp only [List.mem_cons, List.not_mem_nil, or_false, not_or] at hletter
  simp [readEscape, hdigit, hletter, hshort, hcontrol, hassertion, hescapable]

/-- The pattern of a character is read as that character. -/
theorem ofText_literal (c : Char) : ∃ span, Tree.ofText (literal c) = .ok (.literal ⟨span, c, false⟩) := by
  unfold literal
  split
  · next hc =>
    have hatom : readAtom false ['\\', c] = .ok (.literal ⟨.between ['\\', c] [], c, false⟩, []) :=
      readEscape_metacharacter hc
    refine ⟨.between ['\\', c] [], ?_⟩
    simp [Tree.ofText, readBody, skipIgnored, hatom, Atom.toTree, Frame.push, Frame.start, Frame.body, Frame.branch]
  · next hc =>
    simp only [metacharacters, List.mem_cons, List.not_mem_nil, or_false, not_or] at hc
    refine ⟨.between [c] [], ?_⟩
    simp [Tree.ofText, readBody, skipIgnored, hc, readAtom, readLiteralOrEscape, Atom.toTree, Frame.push, Frame.start,
      Frame.body, Frame.branch]

/-- The pattern of a character stands for all characters of its letter. -/
theorem compile_literal (c : Char) :
    compile .standard (literal c) = .ok ⟨literal c, .ofExpr (.chars (.letter .simple c.toNat)) 0⟩ := by
  obtain ⟨span, htree⟩ := ofText_literal c
  have hchars : literalChars (Config.flags .standard) c.toNat = .chars (.letter .simple c.toNat) := by
    unfold literalChars
    split <;> rfl
  have helaborate : Tree.elaborate ⟨Config.flags .standard, 1⟩ (.literal ⟨span, c, false⟩) =
      .ok (.chars (.letter .simple c.toNat), ⟨Config.flags .standard, 1⟩) := by
    rw [← hchars]
    rfl
  have hmeaning : meaning .standard (literal c) = .ok (.chars (.letter .simple c.toNat), 0) := by
    simp only [meaning, htree, Tree.checkDepth, Tree.checkDepthFrom, helaborate]
  rw [compile, compileBy, hmeaning]
  rfl

/-- The pattern of a character takes the first one of its letter out of a text. -/
theorem stripped_of_literal {c : Char} (hp : compile .standard (literal c) = .ok p) (query : Text) :
    (p.extract query).map (·.stripped) =
      if query.any fun d => decide (SameLetter c d) then some (query.eraseP fun d => decide (SameLetter c d))
      else none := by
  have hprogram : p.program = .ofExpr (.chars (.letter .simple c.toNat)) 0 := by
    rw [← Except.ok.inj ((compile_literal c).symm.trans hp)]
  have hmem : (CharSet.letter .simple c.toNat).mem = fun d => decide (SameLetter c d) := by
    funext d
    rw [Bool.eq_iff_iff, decide_eq_true_iff, CharSet.mem_letter_iff]
    exact eq_comm
  rw [stripped_of_chars hprogram, hmem]

end PatternGrammar.Pattern
