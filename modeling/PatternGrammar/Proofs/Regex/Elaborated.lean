import PatternGrammar.Regex.Elaboration

/-!
# Induction on elaborations

A relation between a tree, the scope in front of it, the expression it means and the scope behind it holds of all
elaborations when every kind of tree keeps it (`Tree.Keeps`).
-/

namespace PatternGrammar.Regex

/-- Trees that stand for one character of a set. -/
def Tree.IsSet : Tree → Prop
  | .literal _ | .dot _ | .short _ _ _ | .property _ _ _ | .bracket _ _ _ => True
  | _ => False

/-- The relation `R` on trees, and `S` on trees in a row, is kept by each kind of tree: it holds of an elaboration when
it holds of the elaborations that this one is made of. -/
structure Tree.Keeps (R : Tree → Scope → Expr → Scope → Prop)
    (S : List Tree → Scope → List Expr → Scope → Prop) : Prop where
  empty (span : Span) (scope : Scope) : R (.empty span) scope .empty scope
  flags (span : Span) (settings : List FlagSetting) (scope : Scope) :
    R (.flags span settings) scope .empty { scope with flags := scope.flags.setAll settings }
  chars {t : Tree} {scope : Scope} {s : CharSet} (ht : t.IsSet)
    (h : t.elaborate scope = .ok (.chars s, scope)) : R t scope (.chars s) scope
  assertion (span : Span) (kind : AssertionKind) (scope : Scope) :
    R (.assertion span kind) scope (.assertion (scope.flags.assertion kind)) scope
  repetition (span : Span) (min : Nat) (max : Option Nat) (greedy : Bool) {body : Tree}
    {scope after : Scope} {e : Expr} (hbody : body.elaborate scope = .ok (e, after))
    (h : R body scope e after) : R (.repetition span min max greedy body) scope
      (.repeated min max (greedy != after.flags.swapGreed) e) after
  capture (span : Span) {body : Tree} {flags : Flags} {n : Nat} {after : Scope} {e : Expr}
    (hbody : body.elaborate ⟨flags, n + 1⟩ = .ok (e, after)) (h : R body ⟨flags, n + 1⟩ e after) :
    R (.group span .capture body) ⟨flags, n⟩ (.group n e) { after with flags := flags }
  flagged (span : Span) (settings : List FlagSetting) {body : Tree} {scope after : Scope} {e : Expr}
    (hbody : body.elaborate { scope with flags := scope.flags.setAll settings } = .ok (e, after))
    (h : R body { scope with flags := scope.flags.setAll settings } e after) :
    R (.group span (.flagged settings) body) scope e { after with flags := scope.flags }
  alternation (span : Span) {branches : List Tree} {scope after : Scope} {es : List Expr}
    (hbranches : Tree.elaborateAll scope branches = .ok (es, after)) (h : S branches scope es after) :
    R (.alternation span branches) scope (.choice es) after
  concat (span : Span) {items : List Tree} {scope after : Scope} {es : List Expr}
    (hitems : Tree.elaborateAll scope items = .ok (es, after)) (h : S items scope es after) :
    R (.concat span items) scope (.sequence es) after
  nil (scope : Scope) : S [] scope [] scope
  cons {t : Tree} {ts : List Tree} {scope inner after : Scope} {e : Expr} {es : List Expr}
    (ht : t.elaborate scope = .ok (e, inner)) (hts : Tree.elaborateAll inner ts = .ok (es, after))
    (h : R t scope e inner) (hs : S ts inner es after) : S (t :: ts) scope (e :: es) after

/-- A set is elaborated without a look at the groups, and leaves the scope as it is. -/
theorem charsOf_eq_ok {scope after : Scope} {set : Except SyntaxError CharSet} {e : Expr}
    (h : charsOf scope set = .ok (e, after)) : ∃ s, e = .chars s ∧ after = scope := by
  unfold charsOf at h
  split at h
  · contradiction
  · obtain ⟨rfl, rfl⟩ := Prod.mk.inj (Except.ok.inj h)
    exact ⟨_, rfl, rfl⟩

/-- Such a tree is given a set, and leaves the flags and the numbers of groups alone. -/
theorem Tree.IsSet.elaborate {t : Tree} {scope after : Scope} {e : Expr} (ht : t.IsSet)
    (h : t.elaborate scope = .ok (e, after)) : ∃ s, e = .chars s ∧ after = scope := by
  cases t with
  | literal l =>
    rw [Tree.elaborate] at h
    split at h
    · contradiction
    · obtain ⟨rfl, rfl⟩ := Prod.mk.inj (Except.ok.inj h)
      unfold literalChars
      split
      · exact ⟨_, rfl, rfl⟩
      · exact ⟨_, rfl, rfl⟩
  | dot span =>
    rw [Tree.elaborate] at h
    split at h
    · obtain ⟨rfl, rfl⟩ := Prod.mk.inj (Except.ok.inj h)
      exact ⟨_, rfl, rfl⟩
    · contradiction
  | short span kind negate =>
    rw [Tree.elaborate] at h
    exact charsOf_eq_ok h
  | property span query negate =>
    rw [Tree.elaborate] at h
    exact charsOf_eq_ok h
  | bracket span negate body =>
    rw [Tree.elaborate] at h
    split at h
    · contradiction
    · exact charsOf_eq_ok h
  | _ => exact absurd ht id

namespace Tree.Keeps

variable {R : Tree → Scope → Expr → Scope → Prop} {S : List Tree → Scope → List Expr → Scope → Prop}

mutual

/-- A relation that each kind of tree keeps holds of every elaboration. -/
theorem elaborate (k : Keeps R S) : ∀ {t : Tree} {scope after : Scope} {e : Expr},
    t.elaborate scope = .ok (e, after) → R t scope e after
  | .empty span, scope, after, e, h => by
    rw [Tree.elaborate] at h
    obtain ⟨rfl, rfl⟩ := Prod.mk.inj (Except.ok.inj h)
    exact k.empty span _
  | .flags span settings, scope, after, e, h => by
    rw [Tree.elaborate] at h
    obtain ⟨rfl, rfl⟩ := Prod.mk.inj (Except.ok.inj h)
    exact k.flags span settings scope
  | .literal _, scope, after, e, h | .dot _, scope, after, e, h | .short _ _ _, scope, after, e, h
  | .property _ _ _, scope, after, e, h | .bracket _ _ _, scope, after, e, h => by
    -- all that is said of a set is that it was elaborated
    obtain ⟨s, rfl, rfl⟩ := Tree.IsSet.elaborate (by trivial) h
    exact k.chars (by trivial) h
  | .assertion span kind, scope, after, e, h => by
    rw [Tree.elaborate] at h
    obtain ⟨rfl, rfl⟩ := Prod.mk.inj (Except.ok.inj h)
    exact k.assertion span kind _
  | .repetition span min max greedy body, scope, after, e, h => by
    rw [Tree.elaborate] at h
    split at h
    · contradiction
    · next hbody =>
      obtain ⟨rfl, rfl⟩ := Prod.mk.inj (Except.ok.inj h)
      exact k.repetition span min max greedy hbody (k.elaborate hbody)
  | .group span .capture body, ⟨flags, n⟩, after, e, h => by
    rw [Tree.elaborate] at h
    split at h
    · contradiction
    · next hbody =>
      obtain ⟨rfl, rfl⟩ := Prod.mk.inj (Except.ok.inj h)
      exact k.capture span hbody (k.elaborate hbody)
  | .group span (.flagged settings) body, scope, after, e, h => by
    rw [Tree.elaborate] at h
    split at h
    · contradiction
    · next hbody =>
      obtain ⟨rfl, rfl⟩ := Prod.mk.inj (Except.ok.inj h)
      exact k.flagged span settings hbody (k.elaborate hbody)
  | .alternation span branches, scope, after, e, h => by
    rw [Tree.elaborate] at h
    split at h
    · contradiction
    · next hbranches =>
      obtain ⟨rfl, rfl⟩ := Prod.mk.inj (Except.ok.inj h)
      exact k.alternation span hbranches (k.elaborateAll hbranches)
  | .concat span items, scope, after, e, h => by
    rw [Tree.elaborate] at h
    split at h
    · contradiction
    · next hitems =>
      obtain ⟨rfl, rfl⟩ := Prod.mk.inj (Except.ok.inj h)
      exact k.concat span hitems (k.elaborateAll hitems)

theorem elaborateAll (k : Keeps R S) : ∀ {ts : List Tree} {scope after : Scope} {es : List Expr},
    Tree.elaborateAll scope ts = .ok (es, after) → S ts scope es after
  | [], scope, after, es, h => by
    rw [Tree.elaborateAll] at h
    obtain ⟨rfl, rfl⟩ := Prod.mk.inj (Except.ok.inj h)
    exact k.nil _
  | t :: ts, scope, after, es, h => by
    rw [Tree.elaborateAll] at h
    split at h
    · contradiction
    · next hfirst =>
      split at h
      · contradiction
      · next hothers =>
        obtain ⟨rfl, rfl⟩ := Prod.mk.inj (Except.ok.inj h)
        exact k.cons hfirst hothers (k.elaborate hfirst) (k.elaborateAll hothers)

end

end Tree.Keeps

end PatternGrammar.Regex
