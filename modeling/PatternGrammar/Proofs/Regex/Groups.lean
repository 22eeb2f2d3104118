import PatternGrammar.Proofs.Regex.Elaborated
import PatternGrammar.Proofs.Regex.Compiled
import PatternGrammar.Proofs.Regex.Meaning

/-!
# Capture groups

The capture groups of a pattern are numbered in the order of their parentheses, and elaboration keeps the number, the
flags and the body of each (`Tree.keeps_groups`). Along a match the two positions that are noted last for a group are
the ends of one pass through it (`Expr.Leads.noted`), whatever loops the group stands in.
-/

namespace PatternGrammar.Regex

/-! ## Groups of a tree -/

mutual

/-- The capture groups of a tree in the order of their parentheses: the flags that hold inside, and the body. -/
def Tree.groups (flags : Flags) : Tree → List (Flags × Tree)
  | .empty _ | .flags _ _ | .literal _ | .dot _ | .assertion _ _ | .short _ _ _ | .property _ _ _
  | .bracket _ _ _ => []
  | .repetition _ _ _ _ body => body.groups flags
  | .group _ .capture body => (flags, body) :: body.groups flags
  | .group _ (.flagged settings) body => body.groups (flags.setAll settings)
  | .alternation _ branches => Tree.allGroups flags branches
  | .concat _ items => Tree.allGroups flags items

def Tree.allGroups (flags : Flags) : List Tree → List (Flags × Tree)
  | [] => []
  | t :: ts => t.groups flags ++ Tree.allGroups (t.flagsAfter flags) ts

end

namespace Expr

/-! ## Groups of an expression -/

def groups : Expr → List (Nat × Expr)
  | empty | chars _ | assertion _ => []
  | cat e f | alt e f => e.groups ++ f.groups
  | group n e => (n, e) :: e.groups
  | repetition _ _ _ e => e.groups

/-- No group stands inside a group of the same number. -/
def Numbered : Expr → Prop
  | empty | chars _ | assertion _ => True
  | cat e f | alt e f => e.Numbered ∧ f.Numbered
  | group n e => (∀ g ∈ e.groups, g.1 ≠ n) ∧ e.Numbered
  | repetition _ _ _ e => e.Numbered

theorem hereditary_numbered : Hereditary Numbered where
  empty := trivial
  cat _ _ := Iff.rfl
  alt _ _ := Iff.rfl
  unions _ := trivial

theorem hereditary_groups (Q : Nat × Expr → Prop) : Hereditary fun e => ∀ g ∈ e.groups, Q g where
  empty := by simp [groups]
  cat _ _ := List.forall_mem_append
  alt _ _ := List.forall_mem_append
  unions _ := by simp [groups]

theorem mem_groups_of_repeated {min : Nat} {max : Option Nat} {greedy : Bool} {e : Expr}
    {g : Nat × Expr} (h : g ∈ (repeated min max greedy e).groups) : g ∈ e.groups :=
  holds_repeated (P := fun f => g ∈ f.groups → g ∈ e.groups) (by simp [groups]) id (fun _ _ => id) h

end Expr

/-! ## Elaboration -/

/-- Group `g` of an expression is one of the groups `gs` of a tree, which are numbered from `first` on: it has the
number of that group and matches what its body matches. -/
def IsGroupOf (first : Nat) (gs : List (Flags × Tree)) (g : Nat × Expr) : Prop :=
  ∃ k flags body, gs[k]? = some (flags, body) ∧ g.1 = first + k ∧
    ∀ text i j, g.2.Matches text i j ↔ body.Matches text flags i j

namespace IsGroupOf

variable {first : Nat} {gs hs : List (Flags × Tree)} {g : Nat × Expr}

theorem append_left (h : IsGroupOf first gs g) : IsGroupOf first (gs ++ hs) g := by
  obtain ⟨k, flags, body, hk, hg⟩ := h
  have hlt := (List.getElem?_eq_some_iff.mp hk).1
  exact ⟨k, flags, body, (List.getElem?_append_left hlt).trans hk, hg⟩

theorem append_right (h : IsGroupOf (first + gs.length) hs g) : IsGroupOf first (gs ++ hs) g := by
  obtain ⟨k, flags, body, hk, hn, hsame⟩ := h
  refine ⟨gs.length + k, flags, body, ?_, by omega, hsame⟩
  rw [List.getElem?_append_right (Nat.le_add_right _ _), Nat.add_sub_cancel_left]
  exact hk

theorem le (h : IsGroupOf first gs g) : first ≤ g.1 := by
  obtain ⟨k, -, -, -, hn, -⟩ := h
  omega

end IsGroupOf

/-- What is known of the groups of an expression that means a tree. -/
structure Tree.Groups (t : Tree) (scope : Scope) (e : Expr) (after : Scope) : Prop where
  count : after.nextGroup = scope.nextGroup + (t.groups scope.flags).length
  numbered : e.Numbered
  same : ∀ g ∈ e.groups, IsGroupOf scope.nextGroup (t.groups scope.flags) g

structure Tree.AllGroups (ts : List Tree) (scope : Scope) (es : List Expr) (after : Scope) : Prop where
  count : after.nextGroup = scope.nextGroup + (Tree.allGroups scope.flags ts).length
  numbered : ∀ e ∈ es, e.Numbered
  same : ∀ e ∈ es, ∀ g ∈ e.groups, IsGroupOf scope.nextGroup (Tree.allGroups scope.flags ts) g

theorem Tree.groups_of_isSet {t : Tree} (ht : t.IsSet) (flags : Flags) : t.groups flags = [] := by
  cases t <;> first | rfl | exact absurd ht id

/-- Groups are numbered in the order of their parentheses, and keep what they match, by induction on the tree. -/
theorem Tree.keeps_groups : Tree.Keeps
    (fun t scope e after => t.WellFormed → t.Groups scope e after)
    (fun ts scope es after => Tree.AllWellFormed ts → Tree.AllGroups ts scope es after) where
  empty _ _ _ := ⟨rfl, trivial, by simp [Expr.groups]⟩
  flags _ _ _ _ := ⟨rfl, trivial, by simp [Expr.groups]⟩
  chars ht _ _ := ⟨by rw [Tree.groups_of_isSet ht]; rfl, trivial, by simp [Expr.groups]⟩
  assertion _ _ _ _ := ⟨rfl, trivial, by simp [Expr.groups]⟩
  repetition _ _ _ _ _ _ _ _ _ ih hwf := by
    obtain ⟨hcount, hnumbered, hsame⟩ := ih hwf.2
    exact ⟨hcount, Expr.holds_repeated trivial hnumbered fun _ _ => hnumbered,
      fun g hg => hsame g (Expr.mem_groups_of_repeated hg)⟩
  capture _ body flags n _ e hbody ih hwf := by
    obtain ⟨hcount, hnumbered, hsame⟩ := ih hwf
    have hbodyMeans := Tree.means_of_elaborate (t := body) hwf hbody
    refine ⟨?_, ⟨?_, hnumbered⟩, ?_⟩
    · rw [Tree.groups, List.length_cons, Nat.add_comm _ 1, ← Nat.add_assoc]
      exact hcount
    · -- the groups inside come after the parenthesis of this one
      intro g hg
      have hle := (hsame g hg).le
      exact Nat.ne_of_gt hle
    · intro g hg
      rcases List.mem_cons.mp hg with rfl | hg
      · exact ⟨0, flags, body, rfl, rfl, hbodyMeans.same⟩
      · show IsGroupOf _ ([(flags, body)] ++ _) g
        exact (hsame g hg).append_right
  flagged _ _ _ _ _ _ _ ih hwf := by
    obtain ⟨hcount, hnumbered, hsame⟩ := ih hwf
    exact ⟨hcount, hnumbered, hsame⟩
  alternation _ _ _ _ _ _ ih hwf := by
    obtain ⟨hcount, hnumbered, hsame⟩ := ih hwf.2
    exact ⟨hcount, Expr.hereditary_numbered.choice hnumbered, (Expr.hereditary_groups _).choice hsame⟩
  concat _ _ _ _ _ _ ih hwf := by
    obtain ⟨hcount, hnumbered, hsame⟩ := ih hwf
    exact ⟨hcount, Expr.hereditary_numbered.sequence hnumbered, (Expr.hereditary_groups _).sequence hsame⟩
  nil _ _ := ⟨rfl, by simp, by simp⟩
  cons ht _ ih ihs hwf := by
    obtain ⟨hcount, hnumbered, hsame⟩ := ih hwf.1
    obtain ⟨hcounts, hnumbereds, hsames⟩ := ihs hwf.2
    -- the others are numbered from behind the groups of the first
    rw [(Tree.means_of_elaborate hwf.1 ht).flags] at hcounts hsames
    rw [hcount] at hcounts hsames
    refine ⟨?_, List.forall_mem_cons.mpr ⟨hnumbered, hnumbereds⟩, List.forall_mem_cons.mpr ⟨?_, ?_⟩⟩
    · rw [hcounts, Tree.allGroups, List.length_append, Nat.add_assoc]
    · exact fun g hg => (hsame g hg).append_left
    · exact fun e he g hg => (hsames e he g hg).append_right

/-! ## Noted positions -/

/-- The positions noted last for the start and for the end of group `n`. -/
def Marks.ends (marks : Marks) (n : Nat) : Option Nat × Option Nat :=
  (marks.last? (2 * n), marks.last? (2 * n + 1))

theorem Marks.last?_cons (marks : Marks) (slot position k : Nat) :
    Marks.last? ((slot, position) :: marks) k = if slot = k then some position else marks.last? k := by
  rw [Marks.last?, List.find?_cons]
  by_cases h : slot = k
  · simp [h]
  · rw [beq_false_of_ne h, if_neg h, Marks.last?]

/-- A position noted for another group does not count. -/
theorem Marks.ends_note {s : Spot} {m n : Nat} (h : m ≠ n) :
    Marks.ends (s.note (2 * m)).marks n = Marks.ends s.marks n ∧
      Marks.ends (s.note (2 * m + 1)).marks n = Marks.ends s.marks n := by
  simp only [ends, Spot.note, last?_cons]
  rw [if_neg (by omega), if_neg (by omega), if_neg (by omega), if_neg (by omega)]
  exact ⟨rfl, rfl⟩

namespace Expr

variable {text : Text}

/-- Between two spots either nothing was noted for group `n`, or the last that was noted are the ends of a match of its
body. -/
def Noted (text : Text) (e : Expr) (n : Nat) (s t : Spot) : Prop :=
  Marks.ends t.marks n = Marks.ends s.marks n ∨
    ∃ f i j, (n, f) ∈ e.groups ∧ Marks.ends t.marks n = (some i, some j) ∧ s.position ≤ i ∧ i ≤ j ∧
      j ≤ t.position ∧ f.Matches text i j

theorem Noted.trans {e f : Expr} {n : Nat} {s t u : Spot} (hst : e.Noted text n s t) (htu : f.Noted text n t u)
    (hle : s.position ≤ t.position) (hle' : t.position ≤ u.position) {g : Expr} (he : ∀ x ∈ e.groups, x ∈ g.groups)
    (hf : ∀ x ∈ f.groups, x ∈ g.groups) : g.Noted text n s u := by
  -- the second part counts if it notes anything
  rcases htu with htu | ⟨b, i, j, hb, hends, hi, hij, hj, hm⟩
  · rcases hst with hst | ⟨b, i, j, hb, hends, hi, hij, hj, hm⟩
    · exact .inl (htu.trans hst)
    · exact .inr ⟨b, i, j, he _ hb, htu.trans hends, hi, hij, Nat.le_trans hj hle', hm⟩
  · exact .inr ⟨b, i, j, hf _ hb, hends, Nat.le_trans hle hi, hij, hj, hm⟩

theorem Noted.mono {e f : Expr} {n : Nat} {s t : Spot} (h : e.Noted text n s t)
    (hgroups : ∀ x ∈ e.groups, x ∈ f.groups) : f.Noted text n s t := by
  rcases h with h | ⟨b, i, j, hb, hends⟩
  · exact .inl h
  · exact .inr ⟨b, i, j, hgroups _ hb, hends⟩

theorem Leads.le {e : Expr} {s t : Spot} (h : e.Leads text s t) : s.position ≤ t.position :=
  (matches_of_leads h).ahead.1

/-- The positions noted last for a group on the way through an expression come from one pass through the group. -/
theorem Leads.noted {e : Expr} (hnumbered : e.Numbered) {s t : Spot} (h : e.Leads text s t) (n : Nat) :
    e.Noted text n s t := by
  induction e generalizing s t with
  | empty =>
    obtain rfl : s = t := h
    exact .inl rfl
  | chars set =>
    left
    rw [h.1]
  | assertion a =>
    obtain ⟨rfl, -⟩ := h
    exact .inl rfl
  | cat e f ihe ihf =>
    obtain ⟨u, hsu, hut⟩ := h
    exact (ihe hnumbered.1 hsu).trans (ihf hnumbered.2 hut) hsu.le hut.le
      (fun _ => List.mem_append_left _) (fun _ => List.mem_append_right _)
  | alt e f ihe ihf =>
    rcases h with h | h
    · exact (ihe hnumbered.1 h).mono fun _ => List.mem_append_left _
    · exact (ihf hnumbered.2 h).mono fun _ => List.mem_append_right _
  | group m e ih =>
    obtain ⟨u, hu, rfl⟩ := h
    have hbody := ih hnumbered.2 hu
    by_cases hm : m = n
    · subst hm
      -- the body notes nothing for the group around it
      have hstart : Marks.ends u.marks m = Marks.ends (s.note (2 * m)).marks m := by
        rcases hbody with hbody | ⟨f, i, j, hf, -⟩
        · exact hbody
        · exact absurd rfl (hnumbered.1 _ hf)
      have hmatch := matches_of_leads hu
      rw [show (s.note (2 * m)).position = s.position from rfl] at hmatch
      refine .inr ⟨e, s.position, u.position, List.mem_cons_self, ?_, Nat.le_refl _, hmatch.ahead.1,
        Nat.le_refl _, hmatch⟩
      have hlast := congrArg Prod.fst hstart
      simp only [Marks.ends, Spot.note, Marks.last?_cons, if_true] at hlast ⊢
      rw [if_neg (by omega), hlast]
    · have hnext : (group m e).Noted text n (s.note (2 * m)) u := hbody.mono fun _ => List.mem_cons_of_mem _
      simp only [Noted, (Marks.ends_note hm).1, (Marks.ends_note hm).2] at hnext ⊢
      exact hnext
  | repetition min max greedy e ih =>
    obtain ⟨k, -, htimes⟩ := h
    have hrounds : s.position ≤ t.position ∧ (repetition min max greedy e).Noted text n s t := by
      refine htimes.closed (q := fun s t => s.position ≤ t.position ∧ (repetition min max greedy e).Noted text n s t)
        (fun s => ⟨Nat.le_refl _, .inl rfl⟩) fun hround hrest => ?_
      exact ⟨Nat.le_trans hround.le hrest.1,
        (ih hnumbered hround).trans hrest.2 hround.le hrest.1 (fun _ => id) (fun _ => id)⟩
    exact hrounds.2

end Expr

end PatternGrammar.Regex
