import Mathlib.Data.List.Forall2
import PatternGrammar.Proofs.CharSet.Caseless
import PatternGrammar.Proofs.Regex.Elaborated
import PatternGrammar.Proofs.Regex.Meaning
import PatternGrammar.Regex.Search

/-!
# Programs that do not see case

Under the flags `i` and `u` every set of a pattern holds whole letters, however classes are nested, negated and combined
(`ClassTree.caseless_of_toSet`), and word characters are whole letters. A program of such sets and assertions goes the
same way through two texts of the same letters (`Program.search_same`).
-/

namespace PatternGrammar.Regex

open CharSet

/-! ## Sets of classes -/

/-- Operators between classes keep whole letters. -/
theorem SetOperator.caseless_apply {s t : CharSet} (hs : s.Caseless) (ht : t.Caseless)
    (operator : SetOperator) : (operator.apply s t).Caseless := by
  cases operator with
  | intersection => exact hs.inter ht
  | difference => exact hs.diff ht
  | symmetricDifference => exact hs.symmDiff ht

/-- A short class holds whole letters, although it is not folded. -/
theorem ShortClass.caseless_members (kind : ShortClass) : (kind.members true).Caseless := by
  cases kind with
  | digit => exact caseless_digits
  | space => exact caseless_spaces
  | word => exact caseless_words

/-- Flags under which letters of all scripts match in both cases. -/
structure Flags.Caseless (flags : Flags) : Prop where
  caseInsensitive : flags.caseInsensitive = true
  unicode : flags.unicode = true

namespace Flags.Caseless

variable {flags : Flags}

/-- Under these flags letters are folded by the simple case folds. -/
theorem folding (hf : flags.Caseless) : flags.folding = .simple := by
  simp only [Flags.folding, hf.caseInsensitive, hf.unicode, Bool.not_true, Bool.false_eq_true, if_false, if_true]

theorem close (hf : flags.Caseless) (s : CharSet) : (close flags.folding s).Caseless := by
  rw [hf.folding, Regex.close, if_neg (by decide)]
  exact caseless_closure s

theorem letter (hf : flags.Caseless) (n : Nat) : (letter flags.folding n).Caseless := by
  rw [hf.folding]
  exact caseless_letter n

/-- A negation folds nothing: it takes whole letters out. -/
theorem negated (hf : flags.Caseless) {s t : CharSet} {span : Span} {negate : Bool}
    (hs : s.Caseless) (h : negated flags span negate s = .ok t) : t.Caseless := by
  simp only [Regex.negated, hf.unicode, Bool.not_true, Bool.and_false, Bool.false_eq_true, if_false] at h
  rw [← Except.ok.inj h]
  exact caseless_negateIf hs negate

/-- The short classes are not folded, and hold whole letters as they are. -/
theorem shortSet (hf : flags.Caseless) {span : Span} {kind : ShortClass} {negate : Bool}
    {t : CharSet} (h : shortSet flags span kind negate = .ok t) : t.Caseless := by
  rw [Regex.shortSet, hf.unicode] at h
  exact hf.negated kind.caseless_members h

/-- Properties are folded before they are negated. -/
theorem propertySet (hf : flags.Caseless) {span : Span} {query : PropertyQuery} {negate : Bool}
    {t : CharSet} (h : propertySet flags span query negate = .ok t) : t.Caseless := by
  simp only [Regex.propertySet, hf.unicode, Bool.not_true, Bool.false_eq_true, if_false] at h
  split at h
  · contradiction
  · contradiction
  · rw [← Except.ok.inj h]
    exact caseless_negateIf (hf.close _) negate

end Flags.Caseless

/-- Line ends have no case. -/
theorem caseless_dotSet (flags : Flags) : (dotSet flags).Caseless := by
  intro c d h
  rw [Bool.eq_iff_iff, mem_dotSet, mem_dotSet, Flags.DotMatches, Flags.DotMatches, ne_eq, ne_eq, ne_eq, ne_eq,
    h.eq_lineFeed_iff, h.eq_return_iff]

mutual

/-- A class is folded before it is negated and before it is combined with others, and so holds whole letters. -/
theorem ClassTree.caseless_of_toSet {flags : Flags} (hf : flags.Caseless) :
    ∀ {t : ClassTree} {s : CharSet}, t.toSet flags = .ok s → s.Caseless
  | .empty _, s, h => by
    rw [ClassTree.toSet] at h
    rw [← Except.ok.inj h]
    exact caseless_empty
  | .literal l, s, h => by
    rw [ClassTree.toSet] at h
    split at h
    · contradiction
    · rw [← Except.ok.inj h]
      exact hf.letter _
  | .range _ lo hi, s, h => by
    rw [ClassTree.toSet] at h
    split at h
    · contradiction
    · split at h
      · contradiction
      · rw [← Except.ok.inj h]
        exact hf.close _
  | .named span kind negate, s, h => by
    rw [ClassTree.toSet] at h
    exact hf.negated (hf.close _) h
  | .short span kind negate, s, h => by
    rw [ClassTree.toSet] at h
    exact hf.shortSet h
  | .property span query negate, s, h => by
    rw [ClassTree.toSet] at h
    exact hf.propertySet h
  | .bracket span negate body, s, h => by
    rw [ClassTree.toSet] at h
    split at h
    · contradiction
    · next hbody => exact hf.negated (ClassTree.caseless_of_toSet hf hbody) h
  | .union _ items, s, h => by
    rw [ClassTree.toSet] at h
    split at h
    · contradiction
    · next hitems =>
      rw [← Except.ok.inj h]
      exact caseless_unions (ClassTree.caseless_of_toSets hf hitems)
  | .operation _ operator left right, s, h => by
    rw [ClassTree.toSet] at h
    split at h
    · contradiction
    · next hleft =>
      split at h
      · contradiction
      · next hright =>
        rw [← Except.ok.inj h]
        exact operator.caseless_apply (ClassTree.caseless_of_toSet hf hleft)
          (ClassTree.caseless_of_toSet hf hright)

theorem ClassTree.caseless_of_toSets {flags : Flags} (hf : flags.Caseless) :
    ∀ {ts : List ClassTree} {ss : List CharSet}, ClassTree.toSets flags ts = .ok ss →
      ∀ s ∈ ss, s.Caseless
  | [], ss, h => by
    rw [ClassTree.toSets] at h
    rw [← Except.ok.inj h]
    simp
  | t :: ts, ss, h => by
    rw [ClassTree.toSets] at h
    split at h
    · contradiction
    · next hfirst =>
      split at h
      · contradiction
      · next hothers =>
        rw [← Except.ok.inj h]
        exact List.forall_mem_cons.mpr
          ⟨ClassTree.caseless_of_toSet hf hfirst, ClassTree.caseless_of_toSets hf hothers⟩

end

/-! ## Assertions -/

/-- Two neighbours are both missing, or are the same letter. -/
abbrev SameNeighbour : Option Char → Option Char → Prop :=
  Option.Rel SameLetter

def Assertion.Caseless (a : Assertion) : Prop :=
  ∀ before before' after after', SameNeighbour before before' → SameNeighbour after after' →
    a.holds before after = a.holds before' after'

namespace SameNeighbour

variable {x y : Option Char}

theorem isNone_eq (h : SameNeighbour x y) : x.isNone = y.isNone := by
  cases h with
  | none => rfl
  | some => rfl

theorem lineFeed_eq (h : SameNeighbour x y) : (x == some '\n') = (y == some '\n') := by
  cases h with
  | none => rfl
  | some h =>
    rw [Bool.eq_iff_iff, beq_iff_eq, beq_iff_eq, Option.some_inj, Option.some_inj, h.eq_lineFeed_iff]

theorem return_eq (h : SameNeighbour x y) : (x == some '\r') = (y == some '\r') := by
  cases h with
  | none => rfl
  | some h =>
    rw [Bool.eq_iff_iff, beq_iff_eq, beq_iff_eq, Option.some_inj, Option.some_inj, h.eq_return_iff]

/-- A neighbour is part of a word in one case if it is in the other. -/
theorem isWord_eq (h : SameNeighbour x y) : Assertion.isWord true x = Assertion.isWord true y := by
  cases h with
  | none => rfl
  | some h =>
    simp only [Assertion.isWord, Option.any_some, isWordChar, if_true]
    exact caseless_words _ _ h

end SameNeighbour

/-- Line ends have no case, and word characters are whole letters. -/
theorem Flags.Caseless.assertion {flags : Flags} (hf : flags.Caseless) (kind : AssertionKind) :
    (flags.assertion kind).Caseless := by
  intro before before' after after' hbefore hafter
  cases kind <;> simp only [Flags.assertion, hf.unicode]
  case lineStart =>
    -- without `m`, with `m` and `R`, with `m` alone
    split
    · simp only [Assertion.holds, hbefore.isNone_eq]
    · split
      · simp only [Assertion.holds, hbefore.isNone_eq, hbefore.lineFeed_eq, hbefore.return_eq, bne, hafter.lineFeed_eq]
      · simp only [Assertion.holds, hbefore.isNone_eq, hbefore.lineFeed_eq]
  case lineEnd =>
    split
    · simp only [Assertion.holds, hafter.isNone_eq]
    · split
      · simp only [Assertion.holds, hafter.isNone_eq, hafter.lineFeed_eq, hafter.return_eq, bne, hbefore.return_eq]
      · simp only [Assertion.holds, hafter.isNone_eq, hafter.lineFeed_eq]
  -- ends of the text and words
  all_goals
    simp only [Assertion.holds, hbefore.isNone_eq, hafter.isNone_eq, hbefore.isWord_eq, hafter.isWord_eq]

/-! ## Expressions -/

def Expr.Caseless : Expr → Prop
  | empty => True
  | chars s => s.Caseless
  | assertion a => a.Caseless
  | cat e f | alt e f => e.Caseless ∧ f.Caseless
  | group _ e | repetition _ _ _ e => e.Caseless

namespace Expr

theorem hereditary_caseless : Hereditary Caseless where
  empty := trivial
  cat _ _ := Iff.rfl
  alt _ _ := Iff.rfl
  unions := caseless_unions

end Expr

mutual

def Tree.settings : Tree → List FlagSetting
  | .empty _ | .literal _ | .dot _ | .assertion _ _ | .short _ _ _ | .property _ _ _
  | .bracket _ _ _ => []
  | .flags _ settings => settings
  | .repetition _ _ _ _ body | .group _ .capture body => body.settings
  | .group _ (.flagged settings) body => settings ++ body.settings
  | .alternation _ branches => Tree.allSettings branches
  | .concat _ items => Tree.allSettings items

def Tree.allSettings : List Tree → List FlagSetting
  | [] => []
  | t :: ts => t.settings ++ Tree.allSettings ts

end

/-- Some settings switch neither `i` nor `u` off. -/
def KeepCaseless (settings : List FlagSetting) : Prop :=
  (.caseInsensitive, false) ∉ settings ∧ (.unicode, false) ∉ settings

theorem keepCaseless_append {settings others : List FlagSetting} :
    KeepCaseless (settings ++ others) ↔ KeepCaseless settings ∧ KeepCaseless others := by
  simp only [KeepCaseless, List.mem_append, not_or]
  exact and_and_and_comm

theorem Flags.Caseless.set {flags : Flags} (hf : flags.Caseless) {setting : FlagSetting}
    (hi : setting ≠ (.caseInsensitive, false)) (hu : setting ≠ (.unicode, false)) : (flags.set setting).Caseless :=
  match setting with
  | (.caseInsensitive, true) => ⟨rfl, hf.unicode⟩
  | (.caseInsensitive, false) => absurd rfl hi
  | (.unicode, true) => ⟨hf.caseInsensitive, rfl⟩
  | (.unicode, false) => absurd rfl hu
  | (.multiLine, _) | (.dotMatchesNewLine, _) | (.swapGreed, _) | (.crlf, _)
  | (.ignoreWhitespace, _) => ⟨hf.caseInsensitive, hf.unicode⟩

theorem Flags.Caseless.setAll {flags : Flags} (hf : flags.Caseless) {settings : List FlagSetting}
    (hkeep : KeepCaseless settings) : (flags.setAll settings).Caseless := by
  induction settings generalizing flags with
  | nil => exact hf
  | cons setting settings ih =>
    obtain ⟨hi, hu⟩ := hkeep
    rw [List.mem_cons, not_or] at hi hu
    exact ih (hf.set (Ne.symm hi.1) (Ne.symm hu.1)) ⟨hi.2, hu.2⟩

theorem Flags.Caseless.charsOf {scope after : Scope} {set : Except SyntaxError CharSet} {s : CharSet}
    (hf : scope.flags.Caseless) (hset : ∀ t, set = .ok t → t.Caseless)
    (h : charsOf scope set = .ok (.chars s, after)) : s.Caseless := by
  unfold Regex.charsOf at h
  split at h
  · contradiction
  · next t =>
    obtain ⟨hs, -⟩ := Prod.mk.inj (Except.ok.inj h)
    rw [Flags.chars, hf.unicode, if_pos rfl] at hs
    rw [← Expr.chars.inj hs]
    exact hset t rfl

/-- A tree that stands for one character stands for a whole letter or for none of its characters. -/
theorem Tree.IsSet.caseless {t : Tree} {scope after : Scope} {s : CharSet} (ht : t.IsSet)
    (hf : scope.flags.Caseless) (h : t.elaborate scope = .ok (.chars s, after)) : s.Caseless := by
  cases t with
  | literal l =>
    rw [Tree.elaborate] at h
    split at h
    · contradiction
    · next n hpoint =>
      obtain ⟨hs, -⟩ := Prod.mk.inj (Except.ok.inj h)
      -- with `u` a literal below ASCII's end is not marked as one of ASCII
      have hletter : literalChars scope.flags n = .chars (letter scope.flags.folding n) := by
        rw [literalChars, Flags.chars, hf.unicode, if_pos rfl, ite_self]
      rw [← Expr.chars.inj (hletter.symm.trans hs)]
      exact hf.letter n
  | dot span =>
    rw [Tree.elaborate, hf.unicode, if_pos rfl] at h
    rw [← Expr.chars.inj (Prod.mk.inj (Except.ok.inj h)).1]
    exact caseless_dotSet scope.flags
  | short span kind negate =>
    rw [Tree.elaborate] at h
    exact hf.charsOf (fun _ => hf.shortSet) h
  | property span query negate =>
    rw [Tree.elaborate] at h
    exact hf.charsOf (fun _ => hf.propertySet) h
  | bracket span negate body =>
    rw [Tree.elaborate] at h
    split at h
    · contradiction
    · next hbody =>
      exact hf.charsOf (fun _ => hf.negated (ClassTree.caseless_of_toSet hf hbody)) h
  | _ => exact absurd ht id

/-- Under flags that no setting in the tree switches off, the expression of a tree does not see case, by induction on
the tree. -/
theorem Tree.keeps_caseless : Tree.Keeps
    (fun t scope e after => scope.flags.Caseless → KeepCaseless t.settings →
      e.Caseless ∧ after.flags.Caseless)
    (fun ts scope es after => scope.flags.Caseless → KeepCaseless (Tree.allSettings ts) →
      (∀ e ∈ es, e.Caseless) ∧ after.flags.Caseless) where
  empty _ _ hf _ := ⟨trivial, hf⟩
  flags _ settings _ hf hkeep := ⟨trivial, hf.setAll hkeep⟩
  chars ht h hf _ := ⟨ht.caseless hf h, hf⟩
  assertion _ kind _ hf _ := ⟨hf.assertion kind, hf⟩
  repetition _ _ _ _ _ _ _ _ _ ih hf hkeep :=
    (ih hf hkeep).imp_left fun he => Expr.holds_repeated trivial he fun _ _ => he
  capture _ _ _ _ _ _ _ ih hf hkeep := ⟨(ih hf hkeep).1, hf⟩
  flagged _ settings _ _ _ _ _ ih hf hkeep := by
    rw [Tree.settings, keepCaseless_append] at hkeep
    exact ⟨(ih (hf.setAll hkeep.1) hkeep.2).1, hf⟩
  alternation _ _ _ _ _ _ ih hf hkeep := (ih hf hkeep).imp_left Expr.hereditary_caseless.choice
  concat _ _ _ _ _ _ ih hf hkeep := (ih hf hkeep).imp_left Expr.hereditary_caseless.sequence
  nil _ hf _ := ⟨by simp, hf⟩
  cons _ _ ih ihs hf hkeep := by
    rw [Tree.allSettings, keepCaseless_append] at hkeep
    obtain ⟨he, hinner⟩ := ih hf hkeep.1
    obtain ⟨hes, hafter⟩ := ihs hinner hkeep.2
    exact ⟨List.forall_mem_cons.mpr ⟨he, hes⟩, hafter⟩

/-! ## Programs -/

def Instruction.Caseless : Instruction → Prop
  | chars s => s.Caseless
  | assertion a => a.Caseless
  | _ => True

theorem Instruction.caseless_loop (greedy : Bool) (again leave : Nat) :
    (Instruction.loop greedy again leave).Caseless := by
  cases greedy with
  | true => exact trivial
  | false => exact trivial

theorem Expr.caseless_code {e : Expr} (he : e.Caseless) (at_ : Nat) : ∀ i ∈ e.code at_, i.Caseless := by
  induction e generalizing at_ with
  | empty => simp [code]
  | chars s =>
    rw [code, List.forall_mem_singleton]
    exact he
  | assertion a =>
    rw [code, List.forall_mem_singleton]
    exact he
  | cat e f ihe ihf =>
    rw [code, List.forall_mem_append]
    exact ⟨ihe he.1 _, ihf he.2 _⟩
  | alt e f ihe ihf =>
    simp only [code, List.cons_append, List.forall_mem_cons, List.forall_mem_append]
    exact ⟨trivial, ihe he.1 _, trivial, ihf he.2 _⟩
  | group n e ih =>
    simp only [code, List.cons_append, List.forall_mem_cons, List.forall_mem_append]
    exact ⟨trivial, ih he _, trivial, by simp⟩
  | repetition min max greedy e ih =>
    -- copies are the same code at other places
    have hcopies (n : Nat) (place : Nat → Nat) :
        ∀ i ∈ (List.range n).flatMap fun k => e.code (place k), i.Caseless := by
      intro i hi
      obtain ⟨k, -, hk⟩ := List.mem_flatMap.mp hi
      exact ih he _ i hk
    cases max with
    | none =>
      cases min with
      | zero =>
        simp only [code, List.cons_append, List.forall_mem_cons, List.forall_mem_append]
        refine ⟨Instruction.caseless_loop _ _ _, ih he _, ?_, by simp⟩
        split
        · exact Instruction.caseless_loop _ _ _
        · exact trivial
      | succ min =>
        simp only [code, List.forall_mem_append, List.forall_mem_singleton]
        exact ⟨hcopies _ _, Instruction.caseless_loop _ _ _⟩
    | some max =>
      simp only [code, List.forall_mem_append]
      refine ⟨hcopies _ _, fun i hi => ?_⟩
      obtain ⟨k, -, hk⟩ := List.mem_flatMap.mp hi
      rcases List.mem_cons.mp hk with rfl | hk
      · exact Instruction.caseless_loop _ _ _
      · exact ih he _ i hk

abbrev SameText : List Char → List Char → Prop :=
  List.Forall₂ SameLetter

theorem SameText.head? {s t : List Char} (h : SameText s t) : SameNeighbour s.head? t.head? := by
  cases h with
  | nil => exact .none
  | cons h _ => exact .some h

structure Cursor.Same (x y : Cursor) : Prop where
  position : x.position = y.position
  before : SameNeighbour x.before y.before
  after : SameNeighbour x.after y.after

namespace Program

variable {p : Program}

def Caseless (p : Program) : Prop :=
  ∀ (place : Nat) (i : Instruction), p.code[place]? = some i → i.Caseless

theorem caseless_ofExpr {e : Expr} (he : e.Caseless) (groups : Nat) : (ofExpr e groups).Caseless := by
  intro place i hi
  have hmem := List.mem_of_getElem? (l := (Expr.group 0 e).code 0 ++ [.accept]) (by simpa [ofExpr] using hi)
  rcases List.mem_append.mp hmem with hmem | hmem
  · exact Expr.caseless_code (e := .group 0 e) he 0 i hmem
  · rw [List.mem_singleton.mp hmem]
    exact trivial

theorem follow_same (hp : p.Caseless) {x y : Cursor} (h : x.Same y) (fuel place : Nat) (marks : Marks)
    (front : Front) : p.follow x fuel place marks front = p.follow y fuel place marks front := by
  induction fuel generalizing place marks front with
  | zero => rfl
  | succ fuel ih =>
    rw [follow, follow]
    split
    · rfl
    · cases hi : p.code[place]? with
      | none => rfl
      | some i =>
        cases i with
        | chars s => rfl
        -- nothing but assertions looks at the characters around
        | assertion a =>
          have ha : a.holds x.before x.after = a.holds y.before y.after :=
            hp place _ hi _ _ _ _ h.before h.after
          simp only [ha, ih]
        | mark slot => simp only [h.position, ih]
        | jump target => simp only [ih]
        | branch first second => simp only [ih]
        | accept => rfl

theorem enter_same (hp : p.Caseless) {x y : Cursor} (h : x.Same y) (place : Nat) (marks : Marks)
    (front : Front) : p.enter x place marks front = p.enter y place marks front :=
  follow_same hp h _ _ _ _

theorem advance_same (hp : p.Caseless) {c d : Char} (hcd : SameLetter c d) {x y : Cursor} (h : x.Same y)
    (ts : List Thread) (front : Front) : p.advance c x ts front = p.advance d y ts front := by
  induction ts generalizing front with
  | nil => rfl
  | cons t ts ih =>
    rw [advance, advance]
    cases hi : p.code[t.place]? with
    | none => exact ih front
    | some i =>
      cases i with
      | chars s =>
        have hs : s.mem c = s.mem d := hp t.place _ hi c d hcd
        simp only [hs, enter_same hp h, ih]
      | accept => rfl
      | _ => exact ih front

/-- Texts of the same letters lead to the same best match, by induction on the text. -/
theorem run_same (hp : p.Caseless) {s t : List Char} (h : SameText s t) (position : Nat) (threads : List Thread)
    (best : Option Marks) : p.run position threads best s = p.run position threads best t := by
  induction h generalizing position threads best with
  | nil => rfl
  | @cons c d s t hcd h ih =>
    have hcursor : Cursor.Same ⟨position + 1, some c, s.head?⟩ ⟨position + 1, some d, t.head?⟩ :=
      ⟨rfl, .some hcd, SameText.head? h⟩
    simp only [run, advance_same hp hcd hcursor, ih]

theorem matchAt_same (hp : p.Caseless) {s t : List Char} (h : SameText s t) {before before' : Option Char}
    (hbefore : SameNeighbour before before') (position : Nat) :
    p.matchAt? position before s = p.matchAt? position before' t := by
  have hcursor : Cursor.Same ⟨position, before, s.head?⟩ ⟨position, before', t.head?⟩ :=
    ⟨rfl, hbefore, h.head?⟩
  simp only [matchAt?, enter_same hp hcursor, run_same hp h]

theorem searchFrom_same (hp : p.Caseless) {s t : List Char} (h : SameText s t) {before before' : Option Char}
    (hbefore : SameNeighbour before before') (position : Nat) :
    p.searchFrom? position before s = p.searchFrom? position before' t := by
  induction h generalizing position before before' with
  | nil => exact matchAt_same hp .nil hbefore position
  | cons hcd h ih =>
    rw [searchFrom?, searchFrom?, matchAt_same hp (.cons hcd h) hbefore, ih (.some hcd)]

/-- A search finds the same positions in texts of the same letters. -/
theorem search_same (hp : p.Caseless) {s t : List Char} (h : SameText s t) : p.search? s = p.search? t :=
  searchFrom_same hp h .none 0

end Program

end PatternGrammar.Regex
