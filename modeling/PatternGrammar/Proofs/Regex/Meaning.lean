import PatternGrammar.Proofs.Regex.Elaborated
import PatternGrammar.Proofs.Regex.WellFormed

/-!
# Elaboration keeps the meaning

An expression matches exactly what the tree it was made of matches under the same flags. The proof goes along the tree,
with the flags threaded from left to right as elaboration does.
-/

namespace PatternGrammar.Regex

variable {text : Text}

/-! ## Single characters -/

/-- A set is matched by its members, which without Unicode are those of ASCII. -/
theorem matches_chars {flags : Flags} {s : CharSet} {i j : Nat} :
    (flags.chars s).Matches text i j ↔
      ReadsOne text (fun c => s.mem c = true ∧ (flags.unicode = false → c.toNat < 0x80)) i j := by
  refine ReadsOne.congr (fun c => ?_) i j
  cases hu : flags.unicode with
  | true => simp
  | false => simp [CharSet.mem_asciiOnly]

/-- Without flag `u` only ASCII letters are alike, so that nothing else is like a letter of ASCII. -/
theorem lt_of_fold_eq {flags : Flags} (hu : flags.unicode = false) {m n : Nat} (hn : n ≤ 0x7F)
    (h : flags.folding.fold m = flags.folding.fold n) : m < 0x80 := by
  simp only [Flags.folding, hu] at h
  cases hi : flags.caseInsensitive with
  | false =>
    simp only [hi, Bool.not_false, if_true, Unicode.Folding.fold] at h
    omega
  | true =>
    simp only [hi, Bool.not_true, Bool.false_eq_true, if_false, Unicode.Folding.fold, Unicode.asciiFoldPoint] at h
    split at h <;> split at h <;> omega

/-- A literal is matched by the characters of its letter. -/
theorem matches_literalChars {flags : Flags} {n : Nat} {i j : Nat} :
    (literalChars flags n).Matches text i j ↔
      ReadsOne text (fun c => flags.folding.fold c.toNat = flags.folding.fold n) i j := by
  unfold literalChars
  split
  · rename_i hn
    rw [matches_chars]
    refine ReadsOne.congr (fun c => ?_) i j
    rw [CharSet.mem_letter_iff]
    exact and_iff_left_of_imp fun h hu => lt_of_fold_eq hu hn h
  · exact ReadsOne.congr (fun c => CharSet.mem_letter_iff) i j

theorem holds_point_cons {n m : Nat} {bs : List Unicode.Band} :
    Unicode.holds (⟨n, n, 1⟩ :: bs) m = true ↔ m = n ∨ n < m ∧ Unicode.holds bs m = true := by
  simp only [Unicode.holds, Nat.mod_one, beq_self_eq_true]
  split
  · simp
    omega
  · split
    · simp
      omega
    · have hlt : n < m := by omega
      simp [hlt, Nat.ne_of_gt hlt]

/-- The dot leaves out the ends of lines, unless it is told to match them. -/
theorem mem_dotSet {flags : Flags} (c : Char) : (dotSet flags).mem c = true ↔ flags.DotMatches c := by
  have hfeed : c = '\n' ↔ c.toNat = 0x0A := (Char.toNat_inj (d := '\n')).symm
  have hreturn : c = '\r' ↔ c.toNat = 0x0D := (Char.toNat_inj (d := '\r')).symm
  unfold dotSet Flags.DotMatches
  rw [ne_eq, ne_eq, hfeed, hreturn]
  cases flags.dotMatchesNewLine with
  | true => simp [CharSet.all, CharSet.mem_compl (s := CharSet.empty) rfl, CharSet.mem_empty]
  | false =>
    cases flags.crlf with
    | true =>
      simp only [Bool.false_eq_true, if_false, if_true]
      rw [CharSet.mem_compl rfl, CharSet.mem_bands, Bool.not_eq_true', ← Bool.not_eq_true, holds_point_cons,
        holds_point_cons]
      simp only [Unicode.holds, Bool.false_eq_true, and_false, or_false, false_or, true_implies]
      omega
    | false =>
      simp only [Bool.false_eq_true, if_false]
      rw [CharSet.mem_compl rfl, CharSet.single, CharSet.range, CharSet.mem_bands, Bool.not_eq_true',
        ← Bool.not_eq_true, holds_point_cons]
      simp only [Unicode.holds, Bool.false_eq_true, and_false, or_false, false_or, false_implies, and_true]

/-! ## Trees -/

/-- What holds of a tree that is given the meaning `e`: both match the same, and the flags are threaded in the same
way. -/
structure Tree.Means (t : Tree) (scope : Scope) (e : Expr) (after : Scope) : Prop where
  flags : after.flags = t.flagsAfter scope.flags
  groups : scope.nextGroup ≤ after.nextGroup
  wellFormed : 1 ≤ scope.nextGroup → e.WellFormed
  same : ∀ text i j, e.Matches text i j ↔ t.Matches text scope.flags i j

structure Tree.AllMean (ts : List Tree) (scope : Scope) (es : List Expr) (after : Scope) : Prop where
  flags : after.flags = Tree.flagsAfterAll scope.flags ts
  groups : scope.nextGroup ≤ after.nextGroup
  wellFormed : 1 ≤ scope.nextGroup → ∀ e ∈ es, e.WellFormed
  ne_nil : ts ≠ [] → es ≠ []
  sameRow : ∀ text i j, Expr.MatchesRow text es i j ↔ Tree.MatchesRow text scope.flags ts i j
  sameSome : ∀ text i j,
    (∃ e ∈ es, e.Matches text i j) ↔ Tree.MatchesSome text scope.flags ts i j

theorem Tree.means_of_charsOf {t : Tree} {scope after : Scope} {e : Expr}
    {set : Except SyntaxError CharSet} (hflags : t.flagsAfter scope.flags = scope.flags)
    (hsame : ∀ text i j, t.Matches text scope.flags i j ↔ ReadsOne text (scope.flags.Has set) i j)
    (h : charsOf scope set = .ok (e, after)) : t.Means scope e after := by
  unfold charsOf at h
  split at h
  · simp at h
  · rename_i s
    simp only [Except.ok.injEq, Prod.mk.injEq] at h
    obtain ⟨rfl, rfl⟩ := h
    refine ⟨hflags.symm, Nat.le_refl _, fun _ => trivial, fun text i j => ?_⟩
    rw [hsame, matches_chars]
    exact ReadsOne.congr (fun c => by simp [Flags.Has]) i j

/-- A tree that stands for one character matches what its set holds. -/
theorem Tree.IsSet.means {t : Tree} {scope after : Scope} {e : Expr} (ht : t.IsSet)
    (h : t.elaborate scope = .ok (e, after)) : t.Means scope e after := by
  cases t with
  | literal l =>
    rw [Tree.elaborate] at h
    split at h
    · contradiction
    · next n hpoint =>
      obtain ⟨rfl, rfl⟩ := Prod.mk.inj (Except.ok.inj h)
      -- a literal that stands for a byte alone is refused
      have hn : n = l.char.toNat := by
        unfold literalPoint at hpoint
        split at hpoint
        · simp [refuseAt] at hpoint
        · exact (Except.ok.inj hpoint).symm
      refine ⟨rfl, Nat.le_refl _, fun _ => ?_, fun text i j => ?_⟩
      · unfold literalChars
        split <;> exact trivial
      · rw [matches_literalChars, hn]
        rfl
  | dot span =>
    rw [Tree.elaborate] at h
    split at h
    · obtain ⟨rfl, rfl⟩ := Prod.mk.inj (Except.ok.inj h)
      exact ⟨rfl, Nat.le_refl _, fun _ => trivial, fun text => ReadsOne.congr mem_dotSet⟩
    · simp [refuseAt] at h
  | short span kind negate =>
    rw [Tree.elaborate] at h
    exact Tree.means_of_charsOf rfl (fun _ _ _ => Iff.rfl) h
  | property span query negate =>
    rw [Tree.elaborate] at h
    exact Tree.means_of_charsOf rfl (fun _ _ _ => Iff.rfl) h
  | bracket span negate body =>
    -- a bracket at the top is read like one inside another
    have hset : charsOf scope ((ClassTree.bracket span negate body).toSet scope.flags) =
        .ok (e, after) := by
      rw [← h, Tree.elaborate, ClassTree.toSet]
      split <;> rfl
    exact Tree.means_of_charsOf rfl (fun _ _ _ => Iff.rfl) hset
  | _ => exact absurd ht id

/-- Every kind of tree means an expression that matches what the tree matches, if its parts do. -/
theorem Tree.keeps_meaning : Tree.Keeps
    (fun t scope e after => t.WellFormed → t.Means scope e after)
    (fun ts scope es after => Tree.AllWellFormed ts → Tree.AllMean ts scope es after) where
  empty _ _ _ := ⟨rfl, Nat.le_refl _, fun _ => trivial, fun _ _ _ => Iff.rfl⟩
  flags _ _ _ _ := ⟨rfl, Nat.le_refl _, fun _ => trivial, fun _ _ _ => Iff.rfl⟩
  chars ht h _ := ht.means h
  assertion _ _ _ _ := ⟨rfl, Nat.le_refl _, fun _ => trivial, fun _ _ _ => Iff.rfl⟩
  repetition _ min max _ body scope _ e _ ih hwf := by
    obtain ⟨hbounds, hbody⟩ := hwf
    obtain ⟨hflags, hgroups, hwf, hsame⟩ := ih hbody
    refine ⟨hflags, hgroups, fun hn => Expr.wellFormed_repeated hbounds (hwf hn), fun text i j => ?_⟩
    have heq : e.Matches text = body.Matches text scope.flags := by
      funext k l
      exact propext (hsame text k l)
    rw [Expr.matches_repeated hbounds, heq]
    rfl
  capture _ _ _ _ _ _ _ ih hwf := by
    obtain ⟨-, hgroups, hwf, hsame⟩ := ih hwf
    -- the flags before the group hold again behind it, but its number stays taken
    exact ⟨rfl, Nat.le_of_succ_le hgroups, fun hn => ⟨hn, hwf (Nat.le_succ_of_le hn)⟩, hsame⟩
  flagged _ _ _ _ _ _ _ ih hwf := by
    obtain ⟨-, hgroups, hwf, hsame⟩ := ih hwf
    exact ⟨rfl, hgroups, hwf, hsame⟩
  alternation _ _ _ _ _ _ ih hwf := by
    obtain ⟨hne, hbranches⟩ := hwf
    have hall := ih hbranches
    refine ⟨hall.flags, hall.groups, fun hn => ?_, fun text i j => ?_⟩
    · exact Expr.hereditary_wellFormed.choice (hall.wellFormed hn)
    · rw [Expr.matches_choice (hall.ne_nil hne), hall.sameSome]
      rfl
  concat _ _ _ _ _ _ ih hwf := by
    have hall := ih hwf
    refine ⟨hall.flags, hall.groups, fun hn => ?_, fun text i j => ?_⟩
    · exact Expr.hereditary_wellFormed.sequence (hall.wellFormed hn)
    · rw [Expr.matches_sequence, hall.sameRow]
      rfl
  nil _ _ := ⟨rfl, Nat.le_refl _, by simp, by simp, fun _ _ _ => Iff.rfl, by simp [Tree.MatchesSome]⟩
  cons _ _ ih ihs hwf := by
    obtain ⟨hflags, hgroups, hfirst, hsame⟩ := ih hwf.1
    -- the trees behind start with the flags and the numbers that the first one leaves
    have hall := ihs hwf.2
    refine ⟨?_, Nat.le_trans hgroups hall.groups, fun hn => ?_, by simp, fun text i j => ?_,
      fun text i j => ?_⟩
    · rw [hall.flags, hflags]
      rfl
    · exact List.forall_mem_cons.mpr ⟨hfirst hn, hall.wellFormed (Nat.le_trans hn hgroups)⟩
    · simp only [Expr.MatchesRow, Tree.MatchesRow, hsame, hall.sameRow, hflags]
    · rw [Tree.MatchesSome, ← hflags, ← hall.sameSome, ← hsame]
      simp

/-- A well-formed tree means an expression that matches what the tree matches. -/
theorem Tree.means_of_elaborate {t : Tree} {scope after : Scope} {e : Expr} (hwf : t.WellFormed)
    (h : t.elaborate scope = .ok (e, after)) : t.Means scope e after :=
  Tree.keeps_meaning.elaborate h hwf

/-- Trees in a row match what their expressions match one after the other. -/
theorem Tree.allMean_of_elaborateAll {ts : List Tree} {scope after : Scope} {es : List Expr}
    (hwf : Tree.AllWellFormed ts) (h : Tree.elaborateAll scope ts = .ok (es, after)) : Tree.AllMean ts scope es after :=
  Tree.keeps_meaning.elaborateAll h hwf

end PatternGrammar.Regex
