import PatternGrammar.Proofs.Regex.Groups

/-!
# Backtracking

The ways to match from a place of a text in the order in which a backtracking matcher tries them: the first of two
branches before the second, one more round of a greedy repetition before leaving it, and leaving a lazy one before one
more round. Each way is told by the place where it ends and by what its groups note. `Tree.ways` lists the ways of a
pattern as it is written, `Expr.ways` those of an expression.
-/

namespace PatternGrammar.Regex

/-- A spot that is reached behind some positions noted before. -/
def Spot.behind (s : Spot) (marks : Marks) : Spot :=
  ⟨s.position, s.marks ++ marks⟩

@[simp]
theorem Spot.behind_nil (s : Spot) : s.behind [] = s := by
  rw [behind, List.append_nil]

@[simp]
theorem Spot.behind_behind (s : Spot) (marks marks' : Marks) :
    (s.behind marks).behind marks' = s.behind (marks ++ marks') := by
  rw [behind, behind, behind, List.append_assoc]

/-- For each place of a text the spots that can be reached from there, the preferred ones first. -/
abbrev Ways :=
  Nat → List Spot

namespace Ways

def stay : Ways :=
  fun i => [⟨i, []⟩]

def read (text : Text) (p : Char → Bool) : Ways :=
  fun i => if text[i]?.any p then [⟨i + 1, []⟩] else []

def assert (text : Text) (a : Assertion) : Ways :=
  fun i => if a.holds (text.before i) text[i]? then [⟨i, []⟩] else []

def mark (slot : Nat) : Ways :=
  fun i => [⟨i, [(slot, i)]⟩]

/-- The one and then the other. The first way that is tried last in the one changes fastest. -/
def andThen (v w : Ways) : Ways :=
  fun i => (v i).flatMap fun s => (w s.position).map (·.behind s.marks)

def orElse (v w : Ways) : Ways :=
  fun i => v i ++ w i

def prefer (first : Bool) (v w : Ways) : Ways :=
  if first then v.orElse w else w.orElse v

/-- Notes the start and the end of group `n`. -/
def capture (n : Nat) (w : Ways) : Ways :=
  (mark (2 * n)).andThen (w.andThen (mark (2 * n + 1)))

def copies (w : Ways) : Nat → Ways
  | 0 => stay
  | n + 1 => w.andThen (w.copies n)

/-- At most `n` rounds, as many as possible if `greedy`, else as few. -/
def upTo (greedy : Bool) (w : Ways) : Nat → Ways
  | 0 => stay
  | n + 1 => prefer greedy (w.andThen (w.upTo greedy n)) stay

/-- Any number of rounds. Where each of them reads something there is one at most for each character that is left, so a
bound on their number that is above that is none. -/
def many (text : Text) (greedy : Bool) (w : Ways) : Ways :=
  fun i => w.upTo greedy (text.length - i + 1) i

/-- At least `min` and at most `max` rounds. -/
def times (text : Text) (min : Nat) (max : Option Nat) (greedy : Bool) (w : Ways) : Ways :=
  (w.copies min).andThen <|
    match max with
    | none => w.many text greedy
    | some max => w.upTo greedy (max - min)

end Ways

/-! ## Expressions -/

/-- The ways to match an expression. -/
def Expr.ways (text : Text) : Expr → Ways
  | empty => .stay
  | chars s => .read text s.mem
  | assertion a => .assert text a
  | cat e f => (e.ways text).andThen (f.ways text)
  | alt e f => (e.ways text).orElse (f.ways text)
  | group n e => (e.ways text).capture n
  | repetition min max greedy e => (e.ways text).times text min max greedy

/-! ## Pattern trees -/

def Flags.has (flags : Flags) (set : Except SyntaxError CharSet) (c : Char) : Bool :=
  match set with
  | .ok s => s.mem c && (flags.unicode || decide (c.toNat < 0x80))
  | .error _ => false

/-- Whether a tree that stands for one character stands for this one. -/
def Tree.reads (flags : Flags) (c : Char) : Tree → Bool
  | .literal l => flags.folding.fold c.toNat == flags.folding.fold l.char.toNat
  | .dot _ => flags.dotMatchesNewLine || c != '\n' && !(flags.crlf && c == '\r')
  | .short span kind negate => flags.has (shortSet flags span kind negate) c
  | .property span query negate => flags.has (propertySet flags span query negate) c
  | .bracket span negate body => flags.has ((ClassTree.bracket span negate body).toSet flags) c
  | _ => false

mutual

/-- The ways to match a pattern tree under some flags, where the next capture group has number `n`. -/
def Tree.ways (text : Text) (flags : Flags) (n : Nat) : Tree → Ways
  | .empty _ | .flags _ _ => .stay
  | .literal l => .read text fun c => (Tree.literal l).reads flags c
  | .dot span => .read text fun c => (Tree.dot span).reads flags c
  | .short span kind negate => .read text fun c => (Tree.short span kind negate).reads flags c
  | .property span query negate =>
    .read text fun c => (Tree.property span query negate).reads flags c
  | .bracket span negate body => .read text fun c => (Tree.bracket span negate body).reads flags c
  | .assertion _ kind => .assert text (flags.assertion kind)
  -- flag `U` exchanges greedy and lazy; what is repeated leaves the flags as they are
  | .repetition _ min max greedy body =>
    (body.ways text flags n).times text min max (greedy != (body.flagsAfter flags).swapGreed)
  | .group _ .capture body => (body.ways text flags (n + 1)).capture n
  | .group _ (.flagged settings) body => body.ways text (flags.setAll settings) n
  | .alternation _ branches => Tree.waysOfSome text flags n branches
  | .concat _ items => Tree.waysOfRow text flags n items

def Tree.waysOfSome (text : Text) (flags : Flags) (n : Nat) : List Tree → Ways
  | [] => fun _ => []
  | t :: ts => (t.ways text flags n).orElse
      (Tree.waysOfSome text (t.flagsAfter flags) (n + (t.groups flags).length) ts)

def Tree.waysOfRow (text : Text) (flags : Flags) (n : Nat) : List Tree → Ways
  | [] => .stay
  | t :: ts => (t.ways text flags n).andThen
      (Tree.waysOfRow text (t.flagsAfter flags) (n + (t.groups flags).length) ts)

end

/-! ## Laws of ways -/

namespace Ways

variable {u v w v' w' : Ways} {i : Nat}

theorem stay_andThen (w : Ways) : stay.andThen w = w := by
  funext i
  simp [andThen, stay]

theorem andThen_stay (w : Ways) : w.andThen stay = w := by
  funext i
  simp [andThen, stay, Spot.behind]

/-- Ways in a row may be grouped in either way. -/
theorem andThen_assoc (u v w : Ways) : (u.andThen v).andThen w = u.andThen (v.andThen w) := by
  funext i
  -- both go through the ways of `u`, for each of them through those of `v`, and then through those of `w`
  simp only [andThen, List.flatMap_assoc, List.map_flatMap, List.flatMap_map, List.map_map]
  congr 1
  funext s
  congr 1
  funext t
  simp only [Function.comp_def, Spot.behind, List.append_assoc]

theorem andThen_congr (h : ∀ s ∈ v i, w s.position = w' s.position) : v.andThen w i = v.andThen w' i := by
  rw [andThen, andThen, List.flatMap_def, List.flatMap_def, List.map_congr_left fun s hs => by rw [h s hs]]

theorem prefer_congr {first : Bool} (h : v i = v' i) : prefer first v w i = prefer first v' w i := by
  cases first with
  | true => simp only [prefer, if_true, orElse, h]
  | false => simp only [prefer, Bool.false_eq_true, if_false, orElse, h]

/-- The ways through a group note its start and its end around what they note inside. -/
theorem capture_eq (w : Ways) (n i : Nat) : w.capture n i = (w i).map fun s =>
    ⟨s.position, (2 * n + 1, s.position) :: (s.marks ++ [(2 * n, i)])⟩ := by
  simp only [capture, andThen, mark, List.flatMap_singleton, List.map_flatMap, Spot.behind, List.map_cons,
    List.map_nil, List.cons_append, List.nil_append]
  exact List.map_eq_flatMap.symm

theorem prefer_of_nil (h : w i = []) (greedy : Bool) (v : Ways) : prefer greedy (w.andThen v) stay i = stay i := by
  cases greedy <;> simp [prefer, orElse, andThen, h]

theorem upTo_of_nil (h : w i = []) (greedy : Bool) (n : Nat) : w.upTo greedy n i = stay i := by
  cases n with
  | zero => rfl
  | succ n => exact prefer_of_nil h greedy _

theorem copies_succ (w : Ways) (n : Nat) : w.copies (n + 1) = (w.copies n).andThen w := by
  induction n with
  | zero => exact (andThen_stay w).trans (stay_andThen w).symm
  | succ n ih =>
    calc w.copies (n + 2) = w.andThen (w.copies (n + 1)) := rfl
      _ = w.andThen ((w.copies n).andThen w) := by rw [ih]
      _ = (w.copies (n + 1)).andThen w := (andThen_assoc w (w.copies n) w).symm

end Ways

/-! ## The first way that can be gone on from -/

namespace Ways

/-- The first of some ways that can be gone on from, and where that leads. -/
def first? (ways : List Spot) (next : Nat → Option Spot) : Option Spot :=
  ways.findSome? fun s => (next s.position).map (·.behind s.marks)

variable {next : Nat → Option Spot} {ways : List Spot} {v w : Ways} {i : Nat}

theorem first?_singleton (marks : Marks) : first? [⟨i, marks⟩] next = (next i).map (·.behind marks) := by
  rw [first?, List.findSome?_singleton]

theorem first?_append (ways ways' : List Spot) :
    first? (ways ++ ways') next = (first? ways next).or (first? ways' next) :=
  List.findSome?_append

theorem first?_stay : first? (stay i) next = next i := by
  rw [stay, first?_singleton]
  simp

theorem first?_read {text : Text} {p : Char → Bool} :
    first? (read text p i) next = if text[i]?.any p then next (i + 1) else none := by
  rw [read]
  split
  · rw [first?_singleton]
    simp
  · rfl

theorem first?_orElse : first? (v.orElse w i) next = (first? (v i) next).or (first? (w i) next) :=
  first?_append _ _

theorem first?_behind (marks : Marks) :
    first? (ways.map (·.behind marks)) next = (first? ways next).map (·.behind marks) := by
  induction ways with
  | nil => rfl
  | cons s ways ih =>
    -- what comes next is put in front of the marks of `s`, and these in front of `marks`
    have hone : first? [s.behind marks] next = (first? [s] next).map (·.behind marks) := by
      rw [Spot.behind, first?_singleton, first?_singleton, Option.map_map]
      congr 1
      funext t
      exact (Spot.behind_behind t _ _).symm
    rw [List.map_cons, ← List.singleton_append, first?_append, hone, ih, ← Option.map_or, ← first?_append,
      List.singleton_append]

/-- The first way through two stretches is the first one of the first stretch from which the second can be passed. -/
theorem first?_andThen : first? (v.andThen w i) next = first? (v i) fun j => first? (w j) next := by
  rw [andThen]
  induction v i with
  | nil => rfl
  | cons s ways ih =>
    rw [List.flatMap_cons, first?_append, first?_behind, ih, ← List.singleton_append, first?_append, first?_singleton]

/-- If all can be gone on from, the first one is taken. -/
theorem first?_some : first? ways (fun j => some ⟨j, []⟩) = ways.head? := by
  cases ways with
  | nil => rfl
  | cons s ways =>
    rw [first?, List.findSome?_cons]
    rfl

/-! ## What is on a way -/

variable {s : Spot}

theorem mem_stay : s ∈ stay i ↔ s = ⟨i, []⟩ :=
  List.mem_singleton

theorem mem_andThen : s ∈ v.andThen w i ↔ ∃ t ∈ v i, ∃ u ∈ w t.position, u.behind t.marks = s := by
  simp only [andThen, List.mem_flatMap, List.mem_map]

theorem mem_prefer {first : Bool} : s ∈ prefer first v w i ↔ s ∈ v i ∨ s ∈ w i := by
  cases first with
  | true => rw [prefer, if_pos rfl, orElse, List.mem_append]
  | false => rw [prefer, if_neg Bool.false_ne_true, orElse, List.mem_append, or_comm]

theorem mem_many_self (text : Text) (greedy : Bool) (w : Ways) (i : Nat) : (⟨i, []⟩ : Spot) ∈ w.many text greedy i :=
  mem_prefer.mpr (.inr (mem_stay.mpr rfl))

/-- A relation between spots holds along every way. -/
def Within (w : Ways) (r : Spot → Spot → Prop) : Prop :=
  ∀ i s marks, s ∈ w i → r ⟨i, marks⟩ (s.behind marks)

variable {q r : Spot → Spot → Prop}

theorem within_stay (h : ∀ s, r s s) : stay.Within r := by
  intro i s marks hs
  rw [mem_stay.mp hs]
  exact h ⟨i, marks⟩

theorem within_mark (slot : Nat) : (mark slot).Within fun s t => t = s.note slot := by
  intro i s marks hs
  rw [List.mem_singleton.mp hs]
  rfl

/-- Relations along two stretches hold in a row. -/
theorem Within.andThen (hv : v.Within q) (hw : w.Within r) : (v.andThen w).Within fun s u => ∃ t, q s t ∧ r t u := by
  intro i s marks hs
  obtain ⟨t, ht, u, hu, rfl⟩ := mem_andThen.mp hs
  refine ⟨t.behind marks, hv i t marks ht, ?_⟩
  rw [Spot.behind_behind]
  exact hw t.position u (t.marks ++ marks) hu

theorem Within.mono (hw : w.Within q) (h : ∀ s t, q s t → r s t) : w.Within r :=
  fun i s marks hs => h _ _ (hw i s marks hs)

/-- Copies lead along as many steps. -/
theorem Within.copies (hw : w.Within r) (n : Nat) : (w.copies n).Within (Times r n) := by
  induction n with
  | zero => exact within_stay fun _ => rfl
  | succ n ih => exact hw.andThen ih

theorem Within.upTo (hw : w.Within r) (greedy : Bool) (n : Nat) :
    (w.upTo greedy n).Within fun s t => ∃ m, m ≤ n ∧ Times r m s t := by
  induction n with
  | zero => exact within_stay fun _ => ⟨0, Nat.le_refl 0, rfl⟩
  | succ n ih =>
    intro i s marks hs
    rcases mem_prefer.mp hs with hs | hs
    · -- one round and then at most `n`
      obtain ⟨t, ht, m, hm, htimes⟩ := hw.andThen ih i s marks hs
      exact ⟨m + 1, Nat.succ_le_succ hm, t, ht, htimes⟩
    · exact ⟨0, Nat.zero_le _, within_stay (fun _ => rfl) i s marks hs⟩

end Ways

open Ways in
/-- Each way to match is a match that notes the same positions. -/
theorem Expr.leads_ways {text : Text} {e : Expr} (hwf : e.WellFormed) : (e.ways text).Within (e.Leads text) := by
  induction e with
  | empty => exact within_stay fun _ => rfl
  | chars set =>
    intro i s marks hs
    rw [ways, Ways.read] at hs
    split at hs
    · next hread =>
      rw [List.mem_singleton.mp hs]
      obtain ⟨c, hc, hmem⟩ := (Option.any_eq_true _ _).mp hread
      exact ⟨rfl, rfl, c, hc, hmem⟩
    · exact absurd hs List.not_mem_nil
  | assertion a =>
    intro i s marks hs
    rw [ways, Ways.assert] at hs
    split at hs
    · next hholds =>
      rw [List.mem_singleton.mp hs]
      exact ⟨rfl, hholds⟩
    · exact absurd hs List.not_mem_nil
  | cat e f ihe ihf => exact (ihe hwf.1).andThen (ihf hwf.2)
  | alt e f ihe ihf =>
    intro i s marks hs
    exact (List.mem_append.mp hs).imp (ihe hwf.1 i s marks) (ihf hwf.2 i s marks)
  | group n e ih =>
    refine ((within_mark _).andThen ((ih hwf.2).andThen (within_mark _))).mono fun s t h => ?_
    obtain ⟨_, rfl, u, hu, ht⟩ := h
    exact ⟨u, hu, ht⟩
  | repetition min max greedy e ih =>
    have hneeded := (ih hwf.2).copies min
    cases max with
    | none =>
      intro i s marks hs
      -- the bound on the rounds depends on the place, so the two are put together there
      obtain ⟨t, ht, u, hu, rfl⟩ := mem_andThen.mp hs
      obtain ⟨m, -, hrest⟩ := (ih hwf.2).upTo greedy _ t.position u (t.marks ++ marks) hu
      rw [Spot.behind_behind]
      exact ⟨min + m, ⟨Nat.le_add_right _ _, by simp⟩, (hneeded i t marks ht).add hrest⟩
    | some max =>
      refine (hneeded.andThen ((ih hwf.2).upTo greedy (max - min))).mono fun s t h => ?_
      obtain ⟨u, hfirst, m, hm, hrest⟩ := h
      have hle := hwf.1 max rfl
      refine ⟨min + m, ⟨Nat.le_add_right _ _, fun b hb => ?_⟩, hfirst.add hrest⟩
      rw [← Option.some.inj hb]
      omega

/-- Each way to match ends where a match does. -/
theorem Expr.matches_of_mem_ways {text : Text} {e : Expr} (hwf : e.WellFormed) {i : Nat} {s : Spot}
    (h : s ∈ e.ways text i) : e.Matches text i s.position :=
  matches_of_leads (leads_ways hwf i s [] h)

end PatternGrammar.Regex
