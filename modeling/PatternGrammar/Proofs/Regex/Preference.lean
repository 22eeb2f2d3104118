import PatternGrammar.Proofs.Regex.Ways

/-!
# Preference

Two lists of ways agree when the first way that can be gone on from is the same in both, whatever comes behind them
(`Ways.Agree`). Ways that are tried again, or that are tried behind others to the same place, make no difference. All
that ways are put together with keeps agreement.
-/

namespace PatternGrammar.Regex

theorem Marks.last?_append (marks marks' : Marks) (slot : Nat) :
    Marks.last? (marks ++ marks') slot = (marks.last? slot).or (marks'.last? slot) := by
  rw [Marks.last?, List.find?_append, Option.map_or, Marks.last?, Marks.last?]

/-! ## Spots -/

namespace Spot

/-- Two spots stand at the same place, and the same positions were noted last. -/
def Same (s t : Spot) : Prop :=
  s.position = t.position ∧ ∀ slot, s.marks.last? slot = t.marks.last? slot

namespace Same

variable {s t u : Spot}

theorem refl (s : Spot) : s.Same s :=
  ⟨rfl, fun _ => rfl⟩

theorem trans (hst : s.Same t) (htu : t.Same u) : s.Same u :=
  ⟨hst.1.trans htu.1, fun slot => (hst.2 slot).trans (htu.2 slot)⟩

theorem behind (h : s.Same t) {marks marks' : Marks} (hmarks : ∀ slot, marks.last? slot = marks'.last? slot) :
    (s.behind marks).Same (t.behind marks') := by
  refine ⟨h.1, fun slot => ?_⟩
  rw [Spot.behind, Spot.behind, Marks.last?_append, Marks.last?_append, h.2, hmarks]

end Same

def SameOption (x y : Option Spot) : Prop :=
  Option.Rel Same x y

namespace SameOption

variable {x y z x' y' : Option Spot}

theorem refl (x : Option Spot) : SameOption x x := by
  cases x with
  | none => exact .none
  | some s => exact .some (.refl s)

theorem trans (hxy : SameOption x y) (hyz : SameOption y z) : SameOption x z := by
  cases hxy with
  | none => exact hyz
  | some hst =>
    cases hyz with
    | some htu => exact .some (hst.trans htu)

theorem eq_none_iff (hxy : SameOption x y) : x = none ↔ y = none := by
  cases hxy with
  | none => rfl
  | some _ => simp

theorem or (hxy : SameOption x y) (hxy' : SameOption x' y') : SameOption (x.or x') (y.or y') := by
  cases hxy with
  | none => exact hxy'
  | some hst => exact .some hst

theorem behind (hxy : SameOption x y) {marks marks' : Marks} (hmarks : ∀ slot, marks.last? slot = marks'.last? slot) :
    SameOption (x.map (·.behind marks)) (y.map (·.behind marks')) := by
  cases hxy with
  | none => exact .none
  | some hst => exact .some (hst.behind hmarks)

end SameOption

end Spot

namespace Ways

/-! ## Agreement -/

/-- Of both lists of ways the same one is the first that can be gone on from, whatever comes next. -/
def Agree (ways ways' : List Spot) : Prop :=
  ∀ next next' : Nat → Option Spot, (∀ i, Spot.SameOption (next i) (next' i)) →
    Spot.SameOption (first? ways next) (first? ways' next')

namespace Agree

variable {ways ways' ways'' : List Spot}

theorem refl (ways : List Spot) : Agree ways ways := by
  intro next next' hnext
  induction ways with
  | nil => exact .none
  | cons s ways ih =>
    -- what comes next is the same up to marks that were noted over
    rw [← List.singleton_append, first?_append, first?_append, first?_singleton, first?_singleton]
    exact ((hnext s.position).behind fun _ => rfl).or ih

/-- Ways that agree may be exchanged one after the other. -/
theorem trans (h : Agree ways ways') (h' : Agree ways' ways'') : Agree ways ways'' :=
  fun next next' hnext => (h next next fun i => .refl (next i)).trans (h' next next' hnext)

/-- Lists of ways that agree have the same first way. -/
theorem head? (h : Agree ways ways') : Spot.SameOption ways.head? ways'.head? := by
  have hfirst := h (fun j => some ⟨j, []⟩) _ fun _ => .refl _
  rwa [first?_some, first?_some] at hfirst

theorem eq_nil_iff (h : Agree ways ways') : ways = [] ↔ ways' = [] := by
  rw [← List.head?_eq_none_iff, ← List.head?_eq_none_iff]
  exact h.head?.eq_none_iff

end Agree

def Agrees (v w : Ways) : Prop :=
  ∀ i, Agree (v i) (w i)

namespace Agrees

variable {u v w v' w' : Ways}

theorem refl (w : Ways) : w.Agrees w :=
  fun i => .refl (w i)

theorem trans (huv : u.Agrees v) (hvw : v.Agrees w) : u.Agrees w :=
  fun i => (huv i).trans (hvw i)

theorem of_eq (h : v = w) : v.Agrees w :=
  h ▸ .refl v

/-- Ways may be exchanged for ways that agree in front of others and behind them. -/
theorem andThen (hv : v.Agrees v') (hw : w.Agrees w') : (v.andThen w).Agrees (v'.andThen w') := by
  intro i next next' hnext
  rw [first?_andThen, first?_andThen]
  exact hv i _ _ fun j => hw j next next' hnext

theorem orElse (hv : v.Agrees v') (hw : w.Agrees w') : (v.orElse w).Agrees (v'.orElse w') := by
  intro i next next' hnext
  rw [first?_orElse, first?_orElse]
  exact (hv i next next' hnext).or (hw i next next' hnext)

theorem prefer (first : Bool) (hv : v.Agrees v') (hw : w.Agrees w') :
    (prefer first v w).Agrees (prefer first v' w') := by
  cases first with
  | true => exact hv.orElse hw
  | false => exact hw.orElse hv

theorem capture (n : Nat) (hw : w.Agrees w') : (w.capture n).Agrees (w'.capture n) :=
  (refl _).andThen (hw.andThen (refl _))

theorem copies (hw : w.Agrees w') (n : Nat) : (w.copies n).Agrees (w'.copies n) := by
  induction n with
  | zero => exact .refl _
  | succ n ih => exact hw.andThen ih

theorem upTo (hw : w.Agrees w') (greedy : Bool) (n : Nat) : (w.upTo greedy n).Agrees (w'.upTo greedy n) := by
  induction n with
  | zero => exact .refl _
  | succ n ih => exact .prefer greedy (hw.andThen ih) (.refl _)

/-- Rounds may be exchanged for rounds that agree. -/
theorem times (hw : w.Agrees w') (text : Text) (min : Nat) (max : Option Nat) (greedy : Bool) :
    (w.times text min max greedy).Agrees (w'.times text min max greedy) := by
  refine (hw.copies min).andThen ?_
  cases max with
  | none => exact fun i => hw.upTo greedy (text.length - i + 1) i
  | some max => exact hw.upTo greedy (max - min)

end Agrees

/-! ## Ways that stand still -/

/-- Every way ends where it starts. -/
def Stands (w : Ways) : Prop :=
  ∀ i, ∀ s ∈ w i, s.position = i

/-- Of ways that stand still only the first one counts, since all go on from the same place. -/
theorem first?_of_standing {ways : List Spot} {i : Nat} (h : ∀ s ∈ ways, s.position = i) (next : Nat → Option Spot) :
    first? ways next = ways.head?.bind fun s => (next i).map (·.behind s.marks) := by
  induction ways with
  | nil => rfl
  | cons s ways ih =>
    obtain ⟨hs, hways⟩ := List.forall_mem_cons.mp h
    rw [← List.singleton_append, first?_append, show s = ⟨i, s.marks⟩ by rw [← hs], first?_singleton, ih hways]
    -- all ways go on from the same place, so the first one can be gone on from if any can
    cases next i with
    | none => cases ways.head? <;> rfl
    | some k => rfl

variable {v w : Ways}

theorem stands_stay : stay.Stands := by
  intro i s hs
  rw [mem_stay.mp hs]

theorem Stands.prefer (first : Bool) (hv : v.Stands) (hw : w.Stands) : (prefer first v w).Stands :=
  fun i s hs => (mem_prefer.mp hs).elim (hv i s) (hw i s)

/-- Ways that stand still make no difference behind others that do, if they note nothing new. -/
theorem Stands.absorb (hv : v.Stands) (hw : w.Stands)
    (h : ∀ i s, (v i).head? = some s → ∃ t, (w i).head? = some t ∧
      ∀ slot, Marks.last? (t.marks ++ s.marks) slot = s.marks.last? slot) :
    (v.andThen w).Agrees v := by
  intro i next next' hnext
  rw [first?_andThen, first?_of_standing (hv i), first?_of_standing (hv i), first?_of_standing (hw i)]
  cases hs : (v i).head? with
  | none => exact .none
  | some s =>
    -- of both only the first way counts, as a later one leads to the same place
    obtain ⟨t, ht, hmarks⟩ := h i s hs
    rw [ht]
    simp only [Option.bind_some, Option.map_map, Function.comp_def, Spot.behind_behind]
    exact (hnext i).behind hmarks

/-- A second round that stands still adds nothing. -/
theorem Stands.andThen_self (hw : w.Stands) : (w.andThen w).Agrees w := by
  refine hw.absorb hw fun i s hs => ⟨s, hs, fun slot => ?_⟩
  rw [Marks.last?_append, Option.or_self]

theorem Stands.andThen_prefer (hw : w.Stands) (greedy : Bool) : (w.andThen (Ways.prefer greedy w stay)).Agrees w := by
  refine hw.absorb (hw.prefer greedy stands_stay) fun i s hs => ?_
  cases greedy with
  | true =>
    refine ⟨s, ?_, fun slot => ?_⟩
    · rw [Ways.prefer, if_pos rfl, orElse, List.head?_append, hs, Option.some_or]
    · rw [Marks.last?_append, Option.or_self]
  -- a lazy round is left out before it is tried
  | false => exact ⟨⟨i, []⟩, rfl, fun slot => rfl⟩

theorem Stands.copies (hw : w.Stands) (n : Nat) : (w.copies (n + 1)).Agrees w := by
  induction n with
  | zero => exact .of_eq (andThen_stay w)
  | succ n ih => exact ((Agrees.refl w).andThen ih).trans hw.andThen_self

/-- Of optional rounds that stand still only one counts. -/
theorem Stands.upTo (hw : w.Stands) (greedy : Bool) (n : Nat) :
    (w.upTo greedy (n + 1)).Agrees (Ways.prefer greedy w stay) := by
  induction n with
  | zero =>
    rw [Ways.upTo, Ways.upTo, andThen_stay]
    exact .refl _
  | succ n ih =>
    have hround := ((Agrees.refl w).andThen ih).trans (hw.andThen_prefer greedy)
    exact hround.prefer greedy (.refl stay)

/-- Any number of rounds that stand still is one round at most. -/
theorem Stands.many (hw : w.Stands) (text : Text) (greedy : Bool) :
    (w.many text greedy).Agrees (Ways.prefer greedy w stay) :=
  fun i => hw.upTo greedy (text.length - i) i

/-- Optional rounds that stand still make no difference behind one. -/
theorem Stands.andThen_upTo (hw : w.Stands) (greedy : Bool) (n : Nat) : (w.andThen (w.upTo greedy n)).Agrees w := by
  cases n with
  | zero => exact .of_eq (andThen_stay w)
  | succ n => exact ((Agrees.refl w).andThen (hw.upTo greedy n)).trans (hw.andThen_prefer greedy)

end Ways

end PatternGrammar.Regex
