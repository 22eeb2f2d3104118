import PatternGrammar.Recipe

/-!
# Limits

A pattern under some flags and a limit on its depth is refused whatever the limit on its size, or there is a limit from
which on it is compiled, always to the same program, and below which it is too large. A larger limit on the depth only
lets more patterns through. How programs are measured is left open: all this holds for every measure
(`Pattern.compile_limits`).
-/

namespace PatternGrammar

/-! ## The depth of a tree -/

namespace Regex

mutual

def ClassTree.depth : ClassTree → Nat
  | .empty _ | .literal _ | .range _ _ _ | .named _ _ _ | .short _ _ _ | .property _ _ _ => 0
  | .bracket _ _ body => body.depth + 1
  | .union _ items => ClassTree.depths items + 1
  | .operation _ _ left right => max left.depth right.depth + 1

def ClassTree.depths : List ClassTree → Nat
  | [] => 0
  | t :: ts => max t.depth (ClassTree.depths ts)

end

mutual

def Tree.depth : Tree → Nat
  | .empty _ | .flags _ _ | .literal _ | .dot _ | .assertion _ _ | .short _ _ _ | .property _ _ _ => 0
  | .bracket _ _ body => body.depth + 1
  | .repetition _ _ _ _ body => body.depth + 1
  | .group _ _ body => body.depth + 1
  | .alternation _ branches => Tree.depths branches + 1
  | .concat _ items => Tree.depths items + 1

def Tree.depths : List Tree → Nat
  | [] => 0
  | t :: ts => max t.depth (Tree.depths ts)

end

/-- Going a level down keeps to the limit if there is a level left for it and what lies inside keeps to the limit. -/
theorem descend_eq_ok {limit depth n : Nat} {span : Span} {inside : Nat → Except SyntaxError Unit}
    (hinside : depth + 1 ≤ limit → (inside (depth + 1) = .ok () ↔ depth + 1 + n ≤ limit)) :
    descend limit depth span inside = .ok () ↔ depth + (n + 1) ≤ limit := by
  unfold descend
  by_cases h : limit < depth + 1
  · rw [if_pos h]
    constructor
    · intro hrefuse
      contradiction
    · intro hle
      omega
  · rw [if_neg h, hinside (Nat.le_of_not_lt h)]
    omega

/-- Of two checks in a row both have to pass. -/
theorem both_eq_ok {m n limit : Nat} {first second : Except SyntaxError Unit} (hfirst : first = .ok () ↔ m ≤ limit)
    (hsecond : second = .ok () ↔ n ≤ limit) :
    (match first with
      | .error e => (.error e : Except SyntaxError Unit)
      | .ok () => second) = .ok () ↔ max m n ≤ limit := by
  rw [Nat.max_le, ← hfirst, ← hsecond]
  cases first with
  | error e => simp
  | ok u => simp

mutual

/-- The check of a class tree compares its deepest node with the limit. -/
theorem ClassTree.checkDepth_eq_ok {limit depth : Nat} (t : ClassTree) (hdepth : depth ≤ limit) :
    t.checkDepth limit depth = .ok () ↔ depth + t.depth ≤ limit := by
  cases t with
  | empty | literal | range | named | short | property => simp [ClassTree.checkDepth, ClassTree.depth, hdepth]
  | bracket span negated body =>
    rw [ClassTree.checkDepth, ClassTree.depth]
    exact descend_eq_ok body.checkDepth_eq_ok
  | union span items =>
    rw [ClassTree.checkDepth, ClassTree.depth]
    exact descend_eq_ok (ClassTree.checkDepths_eq_ok items)
  | operation span operator left right =>
    rw [ClassTree.checkDepth, ClassTree.depth]
    refine descend_eq_ok fun h => ?_
    rw [← Nat.add_max_add_left]
    exact both_eq_ok (left.checkDepth_eq_ok h) (right.checkDepth_eq_ok h)

theorem ClassTree.checkDepths_eq_ok {limit depth : Nat} (ts : List ClassTree) (hdepth : depth ≤ limit) :
    ClassTree.checkDepths limit depth ts = .ok () ↔ depth + ClassTree.depths ts ≤ limit := by
  cases ts with
  | nil => simp [ClassTree.checkDepths, ClassTree.depths, hdepth]
  | cons t ts =>
    rw [ClassTree.checkDepths, ClassTree.depths, ← Nat.add_max_add_left]
    exact both_eq_ok (t.checkDepth_eq_ok hdepth) (ClassTree.checkDepths_eq_ok ts hdepth)

end

mutual

/-- The check of a tree compares its deepest node with the limit, counted from where the tree lies. -/
theorem Tree.checkDepthFrom_eq_ok {limit depth : Nat} (t : Tree) (hdepth : depth ≤ limit) :
    t.checkDepthFrom limit depth = .ok () ↔ depth + t.depth ≤ limit := by
  cases t with
  | empty | flags | literal | dot | assertion | short | property =>
    simp [Tree.checkDepthFrom, Tree.depth, hdepth]
  | bracket span negated body =>
    rw [Tree.checkDepthFrom, Tree.depth]
    exact descend_eq_ok body.checkDepth_eq_ok
  | repetition span min max greedy body =>
    rw [Tree.checkDepthFrom, Tree.depth]
    exact descend_eq_ok body.checkDepthFrom_eq_ok
  | group span kind body =>
    rw [Tree.checkDepthFrom, Tree.depth]
    exact descend_eq_ok body.checkDepthFrom_eq_ok
  | alternation span branches =>
    rw [Tree.checkDepthFrom, Tree.depth]
    exact descend_eq_ok (Tree.checkDepths_eq_ok branches)
  | concat span items =>
    rw [Tree.checkDepthFrom, Tree.depth]
    exact descend_eq_ok (Tree.checkDepths_eq_ok items)

theorem Tree.checkDepths_eq_ok {limit depth : Nat} (ts : List Tree) (hdepth : depth ≤ limit) :
    Tree.checkDepths limit depth ts = .ok () ↔ depth + Tree.depths ts ≤ limit := by
  cases ts with
  | nil => simp [Tree.checkDepths, Tree.depths, hdepth]
  | cons t ts =>
    rw [Tree.checkDepths, Tree.depths, ← Nat.add_max_add_left]
    exact both_eq_ok (t.checkDepthFrom_eq_ok hdepth) (Tree.checkDepths_eq_ok ts hdepth)

end

/-- A pattern keeps to a limit if it is not nested deeper. -/
theorem Tree.checkDepth_eq_ok (limit : Nat) (t : Tree) : t.checkDepth limit = .ok () ↔ t.depth ≤ limit := by
  rw [checkDepth, t.checkDepthFrom_eq_ok (Nat.zero_le limit), Nat.zero_add]

end Regex

/-! ## Limits of a pattern -/

namespace Pattern

variable {size : Regex.Expr → Nat} {config : Config} {pattern : Text}

/-- A pattern has a meaning if it is well-formed, not nested too deep, and all names in it have one. -/
theorem meaning_eq_ok {m : Regex.Expr × Nat} :
    meaning config pattern = .ok m ↔
      ∃ tree e scope, Regex.Tree.ofText pattern = .ok tree ∧ tree.depth ≤ config.nestLimit.toNat ∧
        tree.elaborate ⟨config.flags, 1⟩ = .ok (e, scope) ∧ m = (e, scope.nextGroup - 1) := by
  constructor
  · intro hm
    unfold meaning at hm
    cases htree : Regex.Tree.ofText pattern with
    | error e =>
      rw [htree] at hm
      contradiction
    | ok tree =>
      rw [htree] at hm
      dsimp only at hm
      cases hdepth : tree.checkDepth config.nestLimit.toNat with
      | error e =>
        rw [hdepth] at hm
        contradiction
      | ok u =>
        rw [hdepth] at hm
        dsimp only at hm
        cases helaborate : tree.elaborate ⟨config.flags, 1⟩ with
        | error e =>
          rw [helaborate] at hm
          contradiction
        | ok x =>
          rw [helaborate] at hm
          exact ⟨tree, x.1, x.2, rfl, (tree.checkDepth_eq_ok _).mp hdepth, helaborate, (Except.ok.inj hm).symm⟩
  · rintro ⟨tree, e, scope, htree, hdepth, helaborate, rfl⟩
    rw [meaning, htree]
    dsimp only
    rw [(tree.checkDepth_eq_ok _).mpr hdepth]
    dsimp only
    rw [helaborate]

/-- A larger limit on the depth does not change the meaning. -/
theorem meaning_of_nestLimit_le {m : Regex.Expr × Nat} {nest : UInt32} (hle : config.nestLimit ≤ nest)
    (hm : meaning config pattern = .ok m) : meaning { config with nestLimit := nest } pattern = .ok m := by
  obtain ⟨tree, e, scope, htree, hdepth, helaborate, rfl⟩ := meaning_eq_ok.mp hm
  have hdepth' : tree.depth ≤ nest.toNat := Nat.le_trans hdepth (UInt32.le_iff_toNat_le.mp hle)
  exact meaning_eq_ok.mpr ⟨tree, e, scope, htree, hdepth', helaborate, rfl⟩

/-- The pattern is refused under every limit on its size, and always for the same cause. -/
def Refused (size : Regex.Expr → Nat) (config : Config) (pattern : Text) : Prop :=
  ∃ message, ∀ limit : UInt64,
    compileBy size { config with sizeLimit := limit } pattern = .error (.invalidPattern (String.ofList pattern) message)

/-- The pattern is compiled, always to the same, from some limit on, and is too large below. -/
def Sized (size : Regex.Expr → Nat) (config : Config) (pattern : Text) : Prop :=
  ∃ (threshold : Nat) (p : Pattern), p.text = pattern ∧ ∀ limit : UInt64,
    (threshold ≤ limit.toNat → compileBy size { config with sizeLimit := limit } pattern = .ok p) ∧
      (limit.toNat < threshold → compileBy size { config with sizeLimit := limit } pattern =
        .error (.patternTooLarge (String.ofList pattern)
          ("compiled size exceeds " ++ toString limit.toNat ++ " bytes")))

/-- A pattern without a meaning is refused before its size is looked at. -/
theorem compileBy_of_meaning_error {e : Regex.SyntaxError} (hm : meaning config pattern = .error e) :
    compileBy size config pattern = .error (.invalidPattern (String.ofList pattern) (e.report pattern)) := by
  rw [compileBy, hm]

/-- Of a pattern with a meaning only the size is compared with its limit. -/
theorem compileBy_of_meaning_ok {e : Regex.Expr} {groups : Nat} (hm : meaning config pattern = .ok (e, groups)) :
    compileBy size config pattern =
      if config.sizeLimit.toNat < size e then
        .error (.patternTooLarge (String.ofList pattern)
          ("compiled size exceeds " ++ toString config.sizeLimit.toNat ++ " bytes"))
      else .ok ⟨pattern, .ofExpr e groups⟩ := by
  rw [compileBy, hm]

/-- A pattern is compiled if it has a meaning whose size keeps to the limit, and the program is that of the meaning. -/
theorem compileBy_eq_ok {p : Pattern} :
    compileBy size config pattern = .ok p ↔
      ∃ e groups, meaning config pattern = .ok (e, groups) ∧ size e ≤ config.sizeLimit.toNat ∧
        p = ⟨pattern, .ofExpr e groups⟩ := by
  cases hm : meaning config pattern with
  | error fault =>
    rw [compileBy_of_meaning_error hm]
    simp
  | ok m =>
    rw [compileBy_of_meaning_ok hm]
    by_cases hlarge : config.sizeLimit.toNat < size m.1
    · rw [if_pos hlarge]
      constructor
      · intro hp
        contradiction
      · rintro ⟨e, groups, hmeaning, hsize, -⟩
        obtain rfl := Except.ok.inj hmeaning
        exact absurd hlarge (Nat.not_lt_of_le hsize)
    · rw [if_neg hlarge]
      constructor
      · intro hp
        exact ⟨m.1, m.2, rfl, Nat.le_of_not_lt hlarge, (Except.ok.inj hp).symm⟩
      · rintro ⟨e, groups, hmeaning, -, rfl⟩
        obtain rfl := Except.ok.inj hmeaning
        rfl

/-- The limit on the size is looked at only when the pattern has a meaning, which does not depend on it. -/
theorem refused_or_sized (size : Regex.Expr → Nat) (config : Config) (pattern : Text) :
    Refused size config pattern ∨ Sized size config pattern := by
  have hsame (limit : UInt64) : meaning { config with sizeLimit := limit } pattern = meaning config pattern := rfl
  cases hm : meaning config pattern with
  | error e => exact .inl ⟨e.report pattern, fun limit => compileBy_of_meaning_error ((hsame limit).trans hm)⟩
  | ok m =>
    refine .inr ⟨size m.1, ⟨pattern, .ofExpr m.1 m.2⟩, rfl, fun limit => ?_⟩
    rw [compileBy_of_meaning_ok ((hsame limit).trans hm)]
    exact ⟨fun hle => if_neg (Nat.not_lt_of_le hle), fun hlt => if_pos hlt⟩

/-- No pattern is refused under every limit and compiled from some limit on. -/
theorem not_refused_and_sized (size : Regex.Expr → Nat) (config : Config) (pattern : Text) :
    ¬ (Refused size config pattern ∧ Sized size config pattern) := by
  rintro ⟨⟨message, hrefused⟩, threshold, p, -, hsized⟩
  -- at any one limit the two results differ
  obtain ⟨hlarge, hsmall⟩ := hsized 0
  rcases Nat.lt_or_ge (0 : UInt64).toNat threshold with hlt | hle
  · exact nomatch Except.error.inj ((hrefused 0).symm.trans (hsmall hlt))
  · exact nomatch (hrefused 0).symm.trans (hlarge hle)

/-- A larger limit on the depth changes nothing for a pattern that is compiled. -/
theorem compileBy_of_nestLimit_le {p : Pattern} {nest : UInt32} (hle : config.nestLimit ≤ nest)
    (hp : compileBy size config pattern = .ok p) :
    compileBy size { config with nestLimit := nest } pattern = .ok p := by
  obtain ⟨e, groups, hm, hsize, rfl⟩ := compileBy_eq_ok.mp hp
  exact compileBy_eq_ok.mpr ⟨e, groups, meaning_of_nestLimit_le hle hm, hsize, rfl⟩

/-- What a pattern means under some flags does not depend on the limits that it keeps to. -/
theorem meaning_unique {other : Config} {m m' : Regex.Expr × Nat} (hflags : config.flags = other.flags)
    (hm : meaning config pattern = .ok m) (hm' : meaning other pattern = .ok m') : m = m' := by
  obtain ⟨tree, e, scope, htree, -, helaborate, rfl⟩ := meaning_eq_ok.mp hm
  obtain ⟨tree', e', scope', htree', -, helaborate', rfl⟩ := meaning_eq_ok.mp hm'
  obtain rfl : tree = tree' := Except.ok.inj (htree.symm.trans htree')
  rw [hflags, helaborate'] at helaborate
  obtain ⟨rfl, rfl⟩ := Prod.mk.inj (Except.ok.inj helaborate)
  rfl

/-- Under the same flags a pattern is compiled to one program, whatever the limits and whatever the measure. -/
theorem compileBy_unique {size' : Regex.Expr → Nat} {other : Config} {p p' : Pattern}
    (hflags : config.flags = other.flags) (hp : compileBy size config pattern = .ok p)
    (hp' : compileBy size' other pattern = .ok p') : p = p' := by
  obtain ⟨e, groups, hm, -, rfl⟩ := compileBy_eq_ok.mp hp
  obtain ⟨e', groups', hm', -, rfl⟩ := compileBy_eq_ok.mp hp'
  obtain ⟨rfl, rfl⟩ := Prod.mk.inj (meaning_unique hflags hm hm')
  rfl

/-- An error that names a pattern is noted, with the pattern and the words for it. -/
theorem eventsOf_of_pattern? (ν : Type) {e : PatternError} (he : e.pattern? = some (String.ofList pattern)) :
    Recipe.eventsOf e = [(.compileFailed pattern e.message : Event ν)] := by
  cases e with
  | invalidPattern name message | patternTooLarge name message =>
    obtain rfl := Option.some.inj he
    rw [Recipe.eventsOf, String.toList_ofList]
  | invalidConfig message => contradiction

/-- An error names the pattern that is refused. -/
theorem pattern?_of_compileBy {e : PatternError} (he : compileBy size config pattern = .error e) :
    e.pattern? = some (String.ofList pattern) := by
  cases hm : meaning config pattern with
  | error fault =>
    rw [compileBy_of_meaning_error hm] at he
    rw [← Except.error.inj he, PatternError.pattern?]
  | ok m =>
    rw [compileBy_of_meaning_ok hm] at he
    by_cases hlarge : config.sizeLimit.toNat < size m.1
    · rw [if_pos hlarge] at he
      rw [← Except.error.inj he, PatternError.pattern?]
    · rw [if_neg hlarge] at he
      contradiction

/-- For every measure of programs, a pattern is either refused whatever the limit on its size, or there is a threshold
for that limit. A larger limit on the depth changes nothing for a pattern that is compiled, and under the same flags no
limit and no measure changes what it is compiled to. A pattern that is not compiled is noted once, with the words for
its error, and one that is compiled is not noted. -/
theorem compile_limits (ν : Type) (size : Regex.Expr → Nat) (config : Config) (pattern : Text) :
    (Refused size config pattern ∨ Sized size config pattern) ∧
      ¬ (Refused size config pattern ∧ Sized size config pattern) ∧
      (∀ (nest : UInt32) (p : Pattern), config.nestLimit ≤ nest → compileBy size config pattern = .ok p →
        compileBy size { config with nestLimit := nest } pattern = .ok p) ∧
      (∀ (size' : Regex.Expr → Nat) (other : Config) (p p' : Pattern), config.flags = other.flags →
        compileBy size config pattern = .ok p → compileBy size' other pattern = .ok p' → p = p') ∧
      (∀ p, compileBy size config pattern = .ok p →
        compileNoting size config pattern = (.ok p, ([] : List (Event ν)))) ∧
      ∀ e, compileBy size config pattern = .error e → e.pattern? = some (String.ofList pattern) ∧
        compileNoting size config pattern = (.error e, [(.compileFailed pattern e.message : Event ν)]) ∧
        Recipe.eventsOf e = [(.compileFailed pattern e.message : Event ν)] := by
  refine ⟨refused_or_sized size config pattern, not_refused_and_sized size config pattern,
    fun nest p hle hp => compileBy_of_nestLimit_le hle hp,
    fun size' other p p' hflags hp hp' => compileBy_unique hflags hp hp', fun p hp => ?_, fun e he => ?_⟩
  · rw [compileNoting, hp]
  · have hpattern := pattern?_of_compileBy he
    exact ⟨hpattern, by rw [compileNoting, he], eventsOf_of_pattern? ν hpattern⟩

/-- A group under the measure of this library: one that keeps to the limits, one that is nested too deep, and one that
is too large. Under a measure that gives every program 45000 bytes it is the same, and the limits are others. -/
theorem compile_limits_group :
    ∃ p tooDeep tooLarge tooLarge',
      compile { nestLimit := 1 } ['(', 'a', ')'] = .ok p ∧ compile { nestLimit := 9 } ['(', 'a', ')'] = .ok p ∧
        compile { nestLimit := 0 } ['(', 'a', ')'] = .error tooDeep ∧
        compile { sizeLimit := 16 } ['(', 'a', ')'] = .error tooLarge ∧
        compileNoting Regex.Program.bytes { nestLimit := 0 } ['(', 'a', ')'] =
          (.error tooDeep, [(.compileFailed ['(', 'a', ')'] tooDeep.message : Event Unit)]) ∧
        compileNoting Regex.Program.bytes { sizeLimit := 16 } ['(', 'a', ')'] =
          (.error tooLarge, [(.compileFailed ['(', 'a', ')'] tooLarge.message : Event Unit)]) ∧
        compileBy (fun _ => 45000) { sizeLimit := 45000 } ['(', 'a', ')'] = .ok p ∧
        compileNoting (fun _ => 45000) { sizeLimit := 44999 } ['(', 'a', ')'] =
          (.error tooLarge', [(.compileFailed ['(', 'a', ')'] tooLarge'.message : Event Unit)]) := by
  obtain ⟨p, hp⟩ : ∃ p, compile { nestLimit := 1 } ['(', 'a', ')'] = .ok p := ⟨_, rfl⟩
  obtain ⟨tooDeep, hdeep⟩ : ∃ e, compile { nestLimit := 0 } ['(', 'a', ')'] = .error e := ⟨_, rfl⟩
  obtain ⟨tooLarge, hlarge⟩ : ∃ e, compile { sizeLimit := 16 } ['(', 'a', ')'] = .error e := ⟨_, rfl⟩
  obtain ⟨p', hp'⟩ : ∃ p', compileBy (fun _ => 45000) { sizeLimit := 45000 } ['(', 'a', ')'] = .ok p' := ⟨_, rfl⟩
  obtain ⟨tooLarge', hlarge'⟩ :
      ∃ e, compileBy (fun _ => 45000) { sizeLimit := 44999 } ['(', 'a', ')'] = .error e := ⟨_, rfl⟩
  obtain ⟨-, -, hnest, hunique, -⟩ := compile_limits Unit Regex.Program.bytes { nestLimit := 1 } ['(', 'a', ')']
  obtain ⟨-, -, -, -, -, hnoted⟩ := compile_limits Unit Regex.Program.bytes { nestLimit := 0 } ['(', 'a', ')']
  obtain ⟨-, -, -, -, -, hnoted'⟩ := compile_limits Unit Regex.Program.bytes { sizeLimit := 16 } ['(', 'a', ')']
  obtain ⟨-, -, -, -, -, hnoted''⟩ := compile_limits Unit (fun _ => 45000) { sizeLimit := 44999 } ['(', 'a', ')']
  obtain rfl : p = p' := hunique _ { sizeLimit := 45000 } p p' rfl hp hp'
  exact ⟨p, tooDeep, tooLarge, tooLarge', hp, hnest 9 p (by decide) hp, hdeep, hlarge, (hnoted tooDeep hdeep).2.1,
    (hnoted' tooLarge hlarge).2.1, hp', (hnoted'' tooLarge' hlarge').2.1⟩

end Pattern

end PatternGrammar
