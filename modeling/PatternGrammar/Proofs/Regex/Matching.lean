import PatternGrammar.Regex.Elaboration
import PatternGrammar.Text

/-!
# What matches where

The meaning of patterns without a machine: a relation between the two places of a text between which something matches.
`Tree.Matches` says it of a pattern as it is written, under the flags it starts with, and `Expr.Matches` of an
expression. Assertions look at the two characters around a place of the whole text, so a match depends on its
surroundings.
-/

namespace PatternGrammar

def Text.before (text : Text) (i : Nat) : Option Char :=
  if i = 0 then none else text[i - 1]?

namespace Regex

/-- `n` steps of a relation in a row. -/
def Times {σ : Type} (r : σ → σ → Prop) : Nat → σ → σ → Prop
  | 0, s, t => s = t
  | n + 1, s, t => ∃ u, r s u ∧ Times r n u t

theorem Times.add {σ : Type} {r : σ → σ → Prop} {m n : Nat} {s t u : σ}
    (hst : Times r m s t) (htu : Times r n t u) : Times r (m + n) s u := by
  induction m generalizing s with
  | zero =>
    rw [Nat.zero_add]
    exact hst ▸ htu
  | succ m ih =>
    obtain ⟨v, hsv, hvt⟩ := hst
    rw [Nat.succ_add]
    exact ⟨v, hsv, ih hvt⟩

/-- Steps may be divided at any number of them. -/
theorem Times.split {σ : Type} {r : σ → σ → Prop} {m n : Nat} {s u : σ}
    (h : Times r (m + n) s u) : ∃ t, Times r m s t ∧ Times r n t u := by
  induction m generalizing s with
  | zero =>
    rw [Nat.zero_add] at h
    exact ⟨s, rfl, h⟩
  | succ m ih =>
    rw [Nat.succ_add] at h
    obtain ⟨v, hsv, hvu⟩ := h
    obtain ⟨t, hvt, htu⟩ := ih hvu
    exact ⟨t, ⟨v, hsv, hvt⟩, htu⟩

/-- What holds of no step and of one step more holds of any number. -/
theorem Times.closed {σ : Type} {r q : σ → σ → Prop} {n : Nat} {s t : σ} (hrefl : ∀ s, q s s)
    (hstep : ∀ {s t u}, r s t → q t u → q s u) (h : Times r n s t) : q s t := by
  induction n generalizing s with
  | zero =>
    obtain rfl : s = t := h
    exact hrefl s
  | succ n ih =>
    obtain ⟨u, hsu, hut⟩ := h
    exact hstep hsu (ih hut)

theorem Times.map {σ ρ : Type} {r : σ → σ → Prop} {q : ρ → ρ → Prop} {n : Nat} {s t : σ} (f : σ → ρ)
    (hrq : ∀ s t, r s t → q (f s) (f t)) (h : Times r n s t) : Times q n (f s) (f t) := by
  induction n generalizing s with
  | zero => exact congrArg f h
  | succ n ih =>
    obtain ⟨u, hsu, hut⟩ := h
    exact ⟨f u, hrq s u hsu, ih hut⟩

/-- Whether `n` is at least `min` and at most `max`, if there is an upper bound. -/
def Within (min : Nat) (max : Option Nat) (n : Nat) : Prop :=
  min ≤ n ∧ ∀ m, max = some m → n ≤ m

/-- One character stands between two places of a text, and `p` holds of it. -/
def ReadsOne (text : Text) (p : Char → Prop) (i j : Nat) : Prop :=
  j = i + 1 ∧ ∃ c, text[i]? = some c ∧ p c

theorem ReadsOne.congr {text : Text} {p q : Char → Prop} (h : ∀ c, p c ↔ q c) (i j : Nat) :
    ReadsOne text p i j ↔ ReadsOne text q i j := by
  simp only [ReadsOne, h]

def Assertion.HoldsAt (a : Assertion) (text : Text) (i : Nat) : Prop :=
  a.holds (text.before i) text[i]? = true

/-! ## Expressions -/

/-- An expression matches what stands between two places. -/
def Expr.Matches (text : Text) : Expr → Nat → Nat → Prop
  | empty, i, j => i = j
  | chars s, i, j => ReadsOne text (fun c => s.mem c = true) i j
  | assertion a, i, j => i = j ∧ a.HoldsAt text i
  | cat e f, i, j => ∃ k, e.Matches text i k ∧ f.Matches text k j
  | alt e f, i, j => e.Matches text i j ∨ f.Matches text i j
  | group _ e, i, j => e.Matches text i j
  | repetition min max _ e, i, j =>
    ∃ n, Within min max n ∧ Times (e.Matches text) n i j

/-! ## Pattern trees -/

/-- A character is in a set that has a meaning. Without flag `u` sets end with ASCII. -/
def Flags.Has (flags : Flags) (set : Except SyntaxError CharSet) (c : Char) : Prop :=
  ∃ s, set = .ok s ∧ s.mem c = true ∧ (flags.unicode = false → c.toNat < 0x80)

def Flags.DotMatches (flags : Flags) (c : Char) : Prop :=
  flags.dotMatchesNewLine = true ∨ c ≠ '\n' ∧ (flags.crlf = true → c ≠ '\r')

mutual

def Tree.flagsAfter (flags : Flags) : Tree → Flags
  | .empty _ | .literal _ | .dot _ | .assertion _ _ | .short _ _ _ | .property _ _ _
  | .bracket _ _ _ | .group _ _ _ => flags
  | .flags _ settings => flags.setAll settings
  | .repetition _ _ _ _ body => body.flagsAfter flags
  | .alternation _ branches => Tree.flagsAfterAll flags branches
  | .concat _ items => Tree.flagsAfterAll flags items

def Tree.flagsAfterAll (flags : Flags) : List Tree → Flags
  | [] => flags
  | t :: ts => Tree.flagsAfterAll (t.flagsAfter flags) ts

end

mutual

/-- A pattern tree, read under some flags, matches what stands between two places. Flags set inside hold up to the end
of the group around them, in later branches too. -/
def Tree.Matches (text : Text) (flags : Flags) : Tree → Nat → Nat → Prop
  | .empty _, i, j => i = j
  | .flags _ _, i, j => i = j
  | .literal l, i, j =>
    ReadsOne text (fun c => flags.folding.fold c.toNat = flags.folding.fold l.char.toNat) i j
  | .dot _, i, j => ReadsOne text flags.DotMatches i j
  | .assertion _ kind, i, j => i = j ∧ (flags.assertion kind).HoldsAt text i
  | .short span kind negate, i, j => ReadsOne text (flags.Has (shortSet flags span kind negate)) i j
  | .property span query negate, i, j =>
    ReadsOne text (flags.Has (propertySet flags span query negate)) i j
  | .bracket span negate body, i, j =>
    ReadsOne text (flags.Has ((ClassTree.bracket span negate body).toSet flags)) i j
  | .repetition _ min max _ body, i, j =>
    ∃ n, Within min max n ∧ Times (body.Matches text flags) n i j
  | .group _ .capture body, i, j => body.Matches text flags i j
  | .group _ (.flagged settings) body, i, j => body.Matches text (flags.setAll settings) i j
  | .alternation _ branches, i, j => Tree.MatchesSome text flags branches i j
  | .concat _ items, i, j => Tree.MatchesRow text flags items i j

def Tree.MatchesSome (text : Text) (flags : Flags) : List Tree → Nat → Nat → Prop
  | [], _, _ => False
  | t :: ts, i, j =>
    t.Matches text flags i j ∨ Tree.MatchesSome text (t.flagsAfter flags) ts i j

def Tree.MatchesRow (text : Text) (flags : Flags) : List Tree → Nat → Nat → Prop
  | [], i, j => i = j
  | t :: ts, i, j =>
    ∃ k, t.Matches text flags i k ∧ Tree.MatchesRow text (t.flagsAfter flags) ts k j

end

end Regex

end PatternGrammar
