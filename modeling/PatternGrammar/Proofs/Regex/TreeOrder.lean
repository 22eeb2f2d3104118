import PatternGrammar.Proofs.Regex.Backtracking
import PatternGrammar.Proofs.Regex.Order

/-!
# Elaboration keeps the order

The expression that a tree means tries its ways in the order of the tree (`Tree.keeps_ways`), if each alternation in it
has a common beginning that can be matched in one way at most.
-/

namespace PatternGrammar.Regex

variable {text : Text}

/-! ## Properties of the trees in a tree -/

mutual

/-- A property of the trees in a tree, of the flags that hold in front of each of them and of the number that the next
capture group has there. -/
def Tree.Everywhere (P : Flags → Nat → Tree → Prop) (flags : Flags) (n : Nat) : Tree → Prop
  | .repetition span min max greedy body =>
    P flags n (.repetition span min max greedy body) ∧ body.Everywhere P flags n
  | .group span .capture body =>
    P flags n (.group span .capture body) ∧ body.Everywhere P flags (n + 1)
  | .group span (.flagged settings) body =>
    P flags n (.group span (.flagged settings) body) ∧ body.Everywhere P (flags.setAll settings) n
  | .alternation span branches =>
    P flags n (.alternation span branches) ∧ Tree.AllEverywhere P flags n branches
  | .concat span items => P flags n (.concat span items) ∧ Tree.AllEverywhere P flags n items
  | .empty span => P flags n (.empty span)
  | .flags span settings => P flags n (.flags span settings)
  | .literal l => P flags n (.literal l)
  | .dot span => P flags n (.dot span)
  | .assertion span kind => P flags n (.assertion span kind)
  | .short span kind negate => P flags n (.short span kind negate)
  | .property span query negate => P flags n (.property span query negate)
  | .bracket span negate body => P flags n (.bracket span negate body)

def Tree.AllEverywhere (P : Flags → Nat → Tree → Prop) (flags : Flags) (n : Nat) : List Tree → Prop
  | [] => True
  | t :: ts => t.Everywhere P flags n ∧
      Tree.AllEverywhere P (t.flagsAfter flags) (n + (t.groups flags).length) ts

end

/-- What an unbounded repetition repeats does not match the empty text at any place of a text. -/
def Tree.Advances (text : Text) (flags : Flags) (_ : Nat) : Tree → Prop
  | .repetition _ _ none _ body => ∀ i, i ≤ text.length → ¬ body.Matches text flags i i
  | _ => True

/-- The beginning that all branches of an alternation share can be matched in one way at most from each place of a
text. -/
def Tree.BeginsInOneWay (text : Text) (flags : Flags) (n : Nat) : Tree → Prop
  | .alternation _ branches => ∀ es after, Tree.elaborateAll ⟨flags, n⟩ branches = .ok (es, after) →
      ∀ i, (Expr.waysOfRow text (Expr.beginning es) i).length ≤ 1
  | _ => True

/-- Elaboration goes on with the flags and the number of groups behind a tree. -/
theorem Tree.scope_of_elaborate {t : Tree} {scope after : Scope} {e : Expr} (hwf : t.WellFormed)
    (h : t.elaborate scope = .ok (e, after)) :
    after = ⟨t.flagsAfter scope.flags, scope.nextGroup + (t.groups scope.flags).length⟩ := by
  have hflags := (Tree.means_of_elaborate hwf h).flags
  have hcount := (Tree.keeps_groups.elaborate h hwf).count
  rw [← hflags, ← hcount]

/-! ## Loops -/

theorem Expr.hereditary_loopsAdvance (text : Text) : Hereditary (LoopsAdvance text) where
  empty := trivial
  cat _ _ := Iff.rfl
  alt _ _ := Iff.rfl
  unions _ := trivial

theorem Expr.loopsAdvance_repeated {e : Expr} {min : Nat} {max : Option Nat} {greedy : Bool} (he : e.LoopsAdvance text)
    (h : max = none → ∀ i, i ≤ text.length → ¬ e.Matches text i i) : (repeated min max greedy e).LoopsAdvance text := by
  unfold repeated
  extract_lets lo hi
  split
  · exact trivial
  · split
    · exact he
    · refine ⟨fun hnone => h ?_, he⟩
      -- a bound that is cut down is still a bound
      by_cases hempty : e.isEmptyOnly = true
      · simp only [hi, if_pos hempty] at hnone
        contradiction
      · simp only [hi, if_neg hempty] at hnone
        exact hnone

/-- If no repetition of a tree can stand still, no loop of its expression does, by induction on the tree. -/
theorem Tree.keeps_loopsAdvance (text : Text) : Tree.Keeps
    (fun t scope e _ => t.WellFormed → t.Everywhere (Tree.Advances text) scope.flags scope.nextGroup →
      e.LoopsAdvance text)
    (fun ts scope es _ => Tree.AllWellFormed ts →
      Tree.AllEverywhere (Tree.Advances text) scope.flags scope.nextGroup ts →
      ∀ e ∈ es, e.LoopsAdvance text) where
  empty _ _ _ _ := trivial
  flags _ _ _ _ _ := trivial
  chars _ _ _ _ := trivial
  assertion _ _ _ _ _ := trivial
  repetition _ _ max _ body _ _ _ hbody ih hwf h := by
    refine Expr.loopsAdvance_repeated (ih hwf.2 h.2) fun hmax i hi hmatch => ?_
    subst hmax
    exact h.1 i hi (((Tree.means_of_elaborate hwf.2 hbody).same text i i).mp hmatch)
  capture _ _ _ _ _ _ _ ih hwf h := ih hwf h.2
  flagged _ _ _ _ _ _ _ ih hwf h := ih hwf h.2
  alternation _ _ _ _ _ _ ih hwf h := (Expr.hereditary_loopsAdvance text).choice (ih hwf.2 h.2)
  concat _ _ _ _ _ _ ih hwf h := (Expr.hereditary_loopsAdvance text).sequence (ih hwf h.2)
  nil _ _ _ := by simp
  cons ht _ ih ihs hwf h := by
    have hinner := Tree.scope_of_elaborate hwf.1 ht
    rw [hinner] at ihs
    exact List.forall_mem_cons.mpr ⟨ih hwf.1 h.1, ihs hwf.2 h.2⟩

/-! ## Single characters -/

theorem Flags.has_iff {flags : Flags} {set : Except SyntaxError CharSet} {c : Char} :
    flags.has set c = true ↔ flags.Has set c := by
  unfold Flags.has Flags.Has
  cases set with
  | error e => simp
  | ok s => cases flags.unicode <;> simp

/-- A tree that stands for one character reads the characters that it matches. -/
theorem Tree.reads_iff {t : Tree} (ht : t.IsSet) {flags : Flags} {c : Char} :
    t.reads flags c = true ↔ t.Matches [c] flags 0 1 := by
  have hone (p : Char → Prop) : ReadsOne [c] p 0 1 ↔ p c := by
    simp [ReadsOne]
  cases t with
  | literal l => rw [Tree.reads, Tree.Matches, hone, beq_iff_eq]
  | dot span =>
    rw [Tree.reads, Tree.Matches, hone, Flags.DotMatches]
    cases flags.crlf <;> simp
  | short span kind negate => rw [Tree.reads, Tree.Matches, hone, Flags.has_iff]
  | property span query negate => rw [Tree.reads, Tree.Matches, hone, Flags.has_iff]
  | bracket span negate body => rw [Tree.reads, Tree.Matches, hone, Flags.has_iff]
  | _ => exact absurd ht id

/-- A tree that stands for one character has the ways of its set. -/
theorem Tree.IsSet.ways {t : Tree} {scope : Scope} {s : CharSet} (ht : t.IsSet)
    (h : t.elaborate scope = .ok (.chars s, scope)) (n : Nat) :
    t.ways text scope.flags n = (Expr.chars s).ways text := by
  have hsame := (ht.means h).same
  have hmem : (fun c => t.reads scope.flags c) = s.mem := by
    funext c
    rw [Bool.eq_iff_iff, Tree.reads_iff ht, ← hsame]
    simp [Expr.Matches, ReadsOne]
  rw [Expr.ways, ← hmem]
  cases t <;> first | rfl | exact absurd ht id

/-! ## Trees -/

/-- Elaboration keeps the order of the ways to match a tree. -/
theorem Tree.keeps_ways (text : Text) : Tree.Keeps
    (fun t scope e _ => t.WellFormed → 1 ≤ scope.nextGroup →
      t.Everywhere (Tree.BeginsInOneWay text) scope.flags scope.nextGroup →
      (t.ways text scope.flags scope.nextGroup).Agrees (e.ways text))
    (fun ts scope es _ => Tree.AllWellFormed ts → 1 ≤ scope.nextGroup →
      Tree.AllEverywhere (Tree.BeginsInOneWay text) scope.flags scope.nextGroup ts →
      (Tree.waysOfRow text scope.flags scope.nextGroup ts).Agrees (Expr.waysOfRow text es) ∧
        (Tree.waysOfSome text scope.flags scope.nextGroup ts).Agrees (Expr.waysOfSome text es)) where
  empty _ _ _ _ _ := .refl _
  flags _ _ _ _ _ _ := .refl _
  chars ht h _ _ _ := .of_eq (ht.ways h _)
  assertion _ _ _ _ _ _ := .refl _
  repetition _ min max greedy _ _ after _ hbody ih hwf hn hone := by
    have hmeans := Tree.means_of_elaborate hwf.2 hbody
    have hrounds := (ih hwf.2 hn hone.2).times text min max (greedy != after.flags.swapGreed)
    rw [Tree.ways, ← hmeans.flags]
    exact hrounds.trans (Expr.agrees_repeated (hmeans.wellFormed hn) hwf.1)
  capture _ _ _ n _ _ _ ih hwf hn hone := (ih hwf (Nat.le_succ_of_le hn) hone.2).capture n
  flagged _ _ _ _ _ _ _ ih hwf hn hone := ih hwf hn hone.2
  alternation _ _ _ _ _ hbranches ih hwf hn hone := by
    -- the one place where the order may change
    have hne := (Tree.allMean_of_elaborateAll hwf.2 hbranches).ne_nil hwf.1
    exact (ih hwf.2 hn hone.2).2.trans (Expr.agrees_choice hne (hone.1 _ _ hbranches))
  concat _ _ _ _ _ _ ih hwf hn hone :=
    (ih hwf hn hone.2).1.trans (.of_eq (Expr.ways_sequence _).symm)
  nil _ _ _ _ := ⟨.refl _, .refl _⟩
  cons ht _ ih ihs hwf hn hone := by
    have hfirst := ih hwf.1 hn hone.1
    rw [Tree.scope_of_elaborate hwf.1 ht] at ihs
    obtain ⟨hrow, hsome⟩ := ihs hwf.2 (Nat.le_add_right_of_le hn) hone.2
    rw [Expr.waysOfSome_cons]
    exact ⟨hfirst.andThen hrow, hfirst.orElse hsome⟩

end PatternGrammar.Regex
