import PatternGrammar.Proofs.Regex.Hereditary
import PatternGrammar.Regex.Tree.OfText

/-!
# Well-formed patterns

What reading a pattern makes sure of: an alternation has branches, and the lower bound of a repetition is not above its
upper one. Expressions inherit the bounds, and number their capture groups from 1, as 0 is the whole match.
-/

namespace PatternGrammar.Regex

/-! ## Trees -/

mutual

/-- Alternations have branches, and bounds are the right way round. -/
def Tree.WellFormed : Tree → Prop
  | .empty _ | .flags _ _ | .literal _ | .dot _ | .assertion _ _ | .short _ _ _ | .property _ _ _
  | .bracket _ _ _ => True
  | .repetition _ min max _ body => (∀ m, max = some m → min ≤ m) ∧ body.WellFormed
  | .group _ _ body => body.WellFormed
  | .alternation _ branches => branches ≠ [] ∧ Tree.AllWellFormed branches
  | .concat _ items => Tree.AllWellFormed items

def Tree.AllWellFormed : List Tree → Prop
  | [] => True
  | t :: ts => t.WellFormed ∧ Tree.AllWellFormed ts

end

theorem Tree.allWellFormed_iff {ts : List Tree} : Tree.AllWellFormed ts ↔ ∀ t ∈ ts, t.WellFormed := by
  induction ts with
  | nil => simp [Tree.AllWellFormed]
  | cons t ts ih => simp [Tree.AllWellFormed, ih]

/-! ## Reading -/

structure Frame.WellFormed (f : Frame) : Prop where
  branches : ∀ t ∈ f.branches, t.WellFormed
  items : ∀ t ∈ f.items, t.WellFormed

namespace Frame.WellFormed

variable {f : Frame}

theorem start (opened : Option (List Char × GroupKind)) (ignoring : Bool) (text : List Char) :
    (Frame.start opened ignoring text).WellFormed :=
  ⟨by simp [Frame.start], by simp [Frame.start]⟩

theorem push (hf : f.WellFormed) {t : Tree} (ht : t.WellFormed) : (f.push t).WellFormed where
  branches := hf.branches
  items := by
    intro u hu
    rcases List.mem_cons.mp hu with rfl | hu
    · exact ht
    · exact hf.items u hu

theorem pushFlags (hf : f.WellFormed) (span : Span) (settings : List FlagSetting) :
    (f.push (.flags span settings)).WellFormed :=
  hf.push trivial

theorem ignoring (hf : f.WellFormed) (b : Bool) : { f with ignoring := b }.WellFormed :=
  ⟨hf.branches, hf.items⟩

theorem branch (hf : f.WellFormed) (rest : List Char) : (f.branch rest).WellFormed := by
  have hitems := hf.items
  simp only [Frame.branch]
  split
  · exact trivial
  · rename_i h
    exact hitems _ (by simp [h])
  · rw [Tree.WellFormed, Tree.allWellFormed_iff]
    intro t ht
    exact hitems t (List.mem_reverse.mp ht)

theorem body (hf : f.WellFormed) (rest : List Char) : (f.body rest).WellFormed := by
  have hbranch := hf.branch rest
  simp only [Frame.body]
  split
  · exact hbranch
  · rw [Tree.WellFormed, Tree.allWellFormed_iff]
    refine ⟨by simp, fun t ht => ?_⟩
    rcases List.mem_cons.mp (List.mem_reverse.mp ht) with rfl | ht
    · exact hbranch
    · exact hf.branches t ht

theorem nextBranch (hf : f.WellFormed) (bar rest : List Char) : (f.nextBranch bar rest).WellFormed where
  branches := by
    intro t ht
    rcases List.mem_cons.mp ht with rfl | ht
    · exact hf.branch bar
    · exact hf.branches t ht
  items := by simp [Frame.nextBranch]

theorem takeLast? (hf : f.WellFormed) {t : Tree} {g : Frame} (h : f.takeLast? = some (t, g)) :
    t.WellFormed ∧ g.WellFormed := by
  have hitems := hf.items
  unfold Frame.takeLast? at h
  split at h
  · simp at h
  · simp at h
  · rename_i item items hne heq
    simp only [Option.some.injEq, Prod.mk.injEq] at h
    obtain ⟨rfl, rfl⟩ := h
    rw [heq] at hitems
    exact ⟨hitems _ List.mem_cons_self, hf.branches, fun u hu => hitems u (List.mem_cons_of_mem _ hu)⟩

theorem pushRepeated (hf : f.WellFormed) {t : Tree} (ht : t.WellFormed) {count : Count}
    (hcount : ∀ m, count.max = some m → count.min ≤ m) (rest : List Char) : (f.pushRepeated t count rest).WellFormed :=
  hf.push ⟨hcount, ht⟩

end Frame.WellFormed

/-- Bounds in braces are the right way round. -/
theorem le_of_readCounts {ignoring : Bool} {text rest : List Char} {count : Count}
    (h : readCounts ignoring text = .ok (count, rest)) {m : Nat} (hm : count.max = some m) : count.min ≤ m := by
  unfold readCounts at h
  split at h
  · simp [refuse] at h
  · split at h
    split at h
    · simp at h
    · split at h
      · split at h
        split at h
        · simp [refuse] at h
        · rename_i hreversed
          simp only [Except.ok.injEq, Prod.mk.injEq] at h
          obtain ⟨rfl, -⟩ := h
          simp only at hm
          simpa [hm, isReversed] using hreversed
      · simp [refuse] at h

/-- The bounds of `?`, `*` and `+` are the right way round. -/
theorem le_of_readOperator {operator : Char} {text rest : List Char} {count : Count}
    (h : readOperator operator text = (count, rest)) {m : Nat} (hm : count.max = some m) : count.min ≤ m := by
  simp only [readOperator, Prod.mk.injEq] at h
  rw [← h.1] at hm ⊢
  simp only at hm ⊢
  split at hm
  · rw [← Option.some.inj hm]
    split <;> omega
  · simp at hm

/-- A class is read as a bracket. -/
theorem wellFormed_of_readClassBody {ignoring : Bool} {fuel : Nat} {frame : ClassFrame}
    {outer : List ClassFrame} {text rest : List Char} {t : Tree}
    (h : readClassBody ignoring fuel frame outer text = .ok (t, rest)) : t.WellFormed := by
  fun_induction readClassBody ignoring fuel frame outer text with
  | case1 | case2 | case4 | case9 => simp [refuseAt] at h
  | case6 =>
    simp only [Except.ok.injEq, Prod.mk.injEq] at h
    rw [← h.1]
    exact trivial
  | case3 | case5 | case7 | case8 | case10 =>
    rename_i ih
    exact ih h

theorem wellFormed_of_readClass {ignoring : Bool} {text rest : List Char} {t : Tree}
    (h : readClass ignoring text = .ok (t, rest)) : t.WellFormed := by
  unfold readClass at h
  split at h
  · simp at h
  · exact wellFormed_of_readClassBody h

theorem Atom.wellFormed_toTree (a : Atom) : a.toTree.WellFormed := by
  cases a <;> exact trivial

/-- Reading keeps all frames well-formed, and every tree comes out of a frame. -/
theorem wellFormed_of_readBody {fuel : Nat} {frame : Frame} {outer : List Frame} {names : List (List Char × Span)}
    {text : List Char} {t : Tree} (hframe : frame.WellFormed) (houter : ∀ f ∈ outer, f.WellFormed)
    (h : readBody fuel frame outer names text = .ok t) : t.WellFormed := by
  fun_induction readBody fuel frame outer names text with
  -- faults
  | case2 | case4 | case5 | case11 | case13 | case15 | case17 | case18 | case20 =>
    simp [refuse, refuseAt] at h
  -- the end of the text
  | case1 | case3 =>
    rw [← Except.ok.inj h]
    exact hframe.body _
  -- an opening parenthesis puts a new frame on top
  | case6 | case7 | case8 =>
    rename_i ih
    exact ih (.start _ _ _) (List.forall_mem_cons.mpr ⟨hframe, houter⟩) h
  | case9 =>
    rename_i ih
    exact ih (.ignoring (hframe.pushFlags _ _) _) houter h
  -- a closing one hands the tree of the group to the frame below
  | case10 =>
    rename_i ih
    obtain ⟨hinner, hrest⟩ := List.forall_mem_cons.mp houter
    exact ih (hinner.push (hframe.body _)) hrest h
  | case12 =>
    rename_i ih
    exact ih (hframe.nextBranch _ _) houter h
  | case14 =>
    rename_i hclass ih
    exact ih (hframe.push (wellFormed_of_readClass hclass)) houter h
  -- a repetition takes the last item back
  | case16 =>
    rename_i htake count after hoperator ih
    obtain ⟨hitem, hrest⟩ := hframe.takeLast? htake
    exact ih (hrest.pushRepeated hitem (fun _ => le_of_readOperator hoperator) _) houter h
  | case19 =>
    rename_i htake count after hcounts ih
    obtain ⟨hitem, hrest⟩ := hframe.takeLast? htake
    exact ih (hrest.pushRepeated hitem (fun _ => le_of_readCounts hcounts) _) houter h
  | case21 =>
    rename_i ih
    exact ih (hframe.push (Atom.wellFormed_toTree _)) houter h

/-- Whatever is read as a pattern is well-formed, so that its alternations have branches and its bounds an order. -/
theorem Tree.wellFormed_of_ofText {text : List Char} {t : Tree} (h : Tree.ofText text = .ok t) : t.WellFormed :=
  wellFormed_of_readBody (.start _ _ _) (by simp) h

/-! ## Expressions -/

namespace Expr

/-- Bounds are the right way round, and groups are numbered from 1. -/
def WellFormed : Expr → Prop
  | empty | chars _ | assertion _ => True
  | cat e f | alt e f => e.WellFormed ∧ f.WellFormed
  | group n e => 1 ≤ n ∧ e.WellFormed
  | repetition min max _ e => (∀ m, max = some m → min ≤ m) ∧ e.WellFormed

theorem hereditary_wellFormed : Hereditary WellFormed where
  empty := trivial
  cat _ _ := Iff.rfl
  alt _ _ := Iff.rfl
  unions _ := trivial

theorem wellFormed_repeated {min : Nat} {max : Option Nat} {greedy : Bool} {e : Expr}
    (hbounds : ∀ m, max = some m → min ≤ m) (he : e.WellFormed) : (repeated min max greedy e).WellFormed := by
  unfold repeated
  extract_lets lo hi
  split
  · exact trivial
  · split
    · exact he
    · refine ⟨fun m hm => ?_, he⟩
      by_cases hempty : e.isEmptyOnly = true
      · simp only [hi, lo, if_pos hempty] at hm ⊢
        cases max with
        | none =>
          rw [← Option.some.inj hm]
          exact Nat.min_le_right min 1
        | some b =>
          rw [← Option.some.inj hm]
          exact Nat.le_min.mpr ⟨Nat.le_trans (Nat.min_le_left _ _) (hbounds b rfl), Nat.min_le_right _ _⟩
      · simp only [hi, lo, if_neg hempty] at hm ⊢
        exact hbounds m hm

end Expr

end PatternGrammar.Regex
