import PatternGrammar.Proofs.Regex.Simplification

/-!
# Sets of whole letters

Two characters are the same letter if simple case folding sends them to one code point. A set that holds all characters
of a letter or none is made by closing any set under folds, and is kept by union, intersection, difference and
complement.
-/

namespace PatternGrammar

/-- Two characters differ at most in case. -/
def SameLetter (c d : Char) : Prop :=
  Unicode.foldPoint c.toNat = Unicode.foldPoint d.toNat

instance : DecidableRel SameLetter :=
  fun c d => inferInstanceAs (Decidable (Unicode.foldPoint c.toNat = Unicode.foldPoint d.toNat))

namespace SameLetter

variable {c d : Char}

theorem symm (h : SameLetter c d) : SameLetter d c :=
  Eq.symm h

/-- A character next to the surrogates has no other case. -/
theorem eq_of_isAtSeam (h : SameLetter c d) (hc : CharSet.isAtSeam c.toNat = true) : c = d := by
  obtain ⟨hlo, hhi⟩ := CharSet.isAtSeam_iff.mp hc
  have hself : Unicode.foldPoint c.toNat = c.toNat := Unicode.Folding.simple.fold_eq_self hlo hhi
  have hfold : Unicode.foldPoint d.toNat = c.toNat := h.symm.trans hself
  exact Char.toNat_inj.mp (Unicode.Folding.simple.eq_of_fold_eq hlo hhi hfold).symm

/-- A code point that folds to itself, and that nothing else folds to, has no other case. -/
theorem eq_of_no_sources (h : SameLetter c d) (hself : Unicode.foldPoint d.toNat = d.toNat)
    (hsources : Unicode.foldSources d.toNat = []) : c = d := by
  have hfold : Unicode.foldPoint c.toNat = d.toNat := h.trans hself
  rcases Unicode.mem_foldSources_foldPoint c.toNat with heq | hmem
  · exact Char.toNat_inj.mp (heq.trans hfold)
  · rw [hfold, hsources] at hmem
    exact absurd hmem List.not_mem_nil

theorem eq_lineFeed_iff (h : SameLetter c d) : c = '\n' ↔ d = '\n' := by
  constructor
  · rintro rfl
    exact h.symm.eq_of_no_sources (by decide) (by decide)
  · rintro rfl
    exact h.eq_of_no_sources (by decide) (by decide)

theorem eq_return_iff (h : SameLetter c d) : c = '\r' ↔ d = '\r' := by
  constructor
  · rintro rfl
    exact h.symm.eq_of_no_sources (by decide) (by decide)
  · rintro rfl
    exact h.eq_of_no_sources (by decide) (by decide)

theorem trans {e : Char} (h : SameLetter c d) (h' : SameLetter d e) : SameLetter c e :=
  Eq.trans h h'

end SameLetter

/-! ## Sets -/

namespace CharSet

/-- A set holds all characters of a letter or none. -/
def Caseless (s : CharSet) : Prop :=
  ∀ c d, SameLetter c d → s.mem c = s.mem d

variable {s t : CharSet}

theorem caseless_closure (s : CharSet) : (closure .simple s).Caseless :=
  fun _ _ h => mem_closure_congr s h

theorem caseless_letter (n : Nat) : (letter .simple n).Caseless := by
  intro c d h
  have hfold : Unicode.Folding.simple.fold c.toNat = Unicode.Folding.simple.fold d.toNat := h
  rw [Bool.eq_iff_iff, mem_letter_iff, mem_letter_iff, hfold]

/-- Apart from the surrogates and their neighbours a set is looked up directly, and the neighbours have no other
case. -/
theorem Caseless.of_apart (h : ∀ c d : Char, SameLetter c d → isAtSeam c.toNat = false →
    isAtSeam d.toNat = false → s.holdsApart c.toNat = s.holdsApart d.toNat) : s.Caseless := by
  intro c d hcd
  -- a character next to the surrogates is a letter by itself
  cases hc : isAtSeam c.toNat with
  | true => rw [hcd.eq_of_isAtSeam hc]
  | false =>
    cases hd : isAtSeam d.toNat with
    | true => rw [hcd.symm.eq_of_isAtSeam hd]
    | false =>
      rw [mem, mem, holds_of_not_isAtSeam hc, holds_of_not_isAtSeam hd]
      exact h c d hcd hc hd

theorem Caseless.apart (h : s.Caseless) {c d : Char} (hcd : SameLetter c d) (hc : isAtSeam c.toNat = false)
    (hd : isAtSeam d.toNat = false) : s.holdsApart c.toNat = s.holdsApart d.toNat := by
  rw [← holds_of_not_isAtSeam hc, ← holds_of_not_isAtSeam hd]
  exact h c d hcd

theorem caseless_empty : empty.Caseless :=
  fun c d _ => by rw [mem_empty, mem_empty]

theorem Caseless.union (hs : s.Caseless) (ht : t.Caseless) : (union s t).Caseless :=
  .of_apart fun _ _ h hc hd => by rw [holdsApart, holdsApart, hs.apart h hc hd, ht.apart h hc hd]

theorem Caseless.inter (hs : s.Caseless) (ht : t.Caseless) : (inter s t).Caseless :=
  .of_apart fun _ _ h hc hd => by rw [holdsApart, holdsApart, hs.apart h hc hd, ht.apart h hc hd]

theorem Caseless.diff (hs : s.Caseless) (ht : t.Caseless) : (diff s t).Caseless :=
  .of_apart fun _ _ h hc hd => by rw [holdsApart, holdsApart, hs.apart h hc hd, ht.apart h hc hd]

theorem Caseless.symmDiff (hs : s.Caseless) (ht : t.Caseless) : (symmDiff s t).Caseless :=
  .of_apart fun _ _ h hc hd => by rw [holdsApart, holdsApart, hs.apart h hc hd, ht.apart h hc hd]

/-- Only whole letters are taken out of all characters. -/
theorem Caseless.compl (hs : s.Caseless) : (compl s).Caseless :=
  .of_apart fun _ _ h hc hd => by rw [holdsApart, holdsApart, hs.apart h hc hd]

theorem caseless_negateIf (hs : s.Caseless) (negate : Bool) : (negateIf negate s).Caseless := by
  cases negate with
  | true => exact hs.compl
  | false => exact hs

theorem caseless_unions {ss : List CharSet} (h : ∀ s ∈ ss, s.Caseless) : (unions ss).Caseless := by
  induction ss with
  | nil => exact caseless_empty
  | cons s ss ih =>
    obtain ⟨hs, hss⟩ := List.forall_mem_cons.mp h
    cases ss with
    | nil => exact hs
    | cons t ts => exact hs.union (ih hss)

/-! ## Tables of whole letters

Word characters, digits and white space are looked up as they are, without a fold. They hold whole letters all the same,
as every code point that has another case is a word character, and none is a digit or white space. This is read off the
table of folds row by row. -/

/-- A set without the leading bands of its tables that end before `m`. -/
def skipTo (m : Nat) : CharSet → CharSet
  | bands bs => bands (bs.dropWhile fun b => Nat.ble b.first m && Nat.blt b.last m)
  | union s t => union (s.skipTo m) (t.skipTo m)
  | s => s

/-- In ascending bands those that end before `m` do not matter from `m` on. -/
theorem holds_dropWhile {bs : List Unicode.Band} {m n : Nat} (h : m ≤ n) :
    Unicode.holds (bs.dropWhile fun b => Nat.ble b.first m && Nat.blt b.last m) n = Unicode.holds bs n := by
  induction bs with
  | nil => rfl
  | cons b bs ih =>
    rw [List.dropWhile_cons]
    split
    · next hb =>
      obtain ⟨lo, hi⟩ : b.first ≤ m ∧ b.last < m := by simpa using hb
      rw [ih, Unicode.holds_cons_of_lt (Nat.le_trans lo h) (Nat.lt_of_lt_of_le hi h)]
    · rfl

theorem holdsApart_skipTo {m n : Nat} (s : CharSet) (h : m ≤ n) : (s.skipTo m).holdsApart n = s.holdsApart n := by
  induction s with
  | bands bs => exact holds_dropWhile h
  | union s t ihs iht => rw [skipTo, holdsApart, holdsApart, ihs, iht]
  | _ => rfl

/-- Whether a set holds all code points that have another case (`found`), or none. A row is looked up from its first
code point on, and so are the code points to which it folds. -/
def holdsFolded (found : Bool) (s : CharSet) : Bool :=
  Unicode.foldBands.all fun b => (List.range ((b.last - b.first) / b.step + 1)).all fun k =>
    (s.skipTo b.first).holdsApart (b.first + k * b.step) == found &&
      (s.skipTo b.target).holdsApart (b.target + k * b.step) == found

/-- If each row of the table of folds passes the test, so does each code point that has another case. -/
theorem holdsApart_of_mem_foldedPoints {found : Bool} {n : Nat} (h : s.holdsFolded found = true)
    (hn : n ∈ Unicode.foldedPoints) : s.holdsApart n = found := by
  obtain ⟨b, hb, hmem⟩ := List.mem_flatMap.mp hn
  obtain ⟨k, hk, hpoint⟩ := List.mem_flatMap.mp hmem
  have hrow := List.all_eq_true.mp (List.all_eq_true.mp h b hb) k hk
  rw [holdsApart_skipTo s (Nat.le_add_right _ _), holdsApart_skipTo s (Nat.le_add_right _ _), Bool.and_eq_true,
    beq_iff_eq, beq_iff_eq] at hrow
  rw [List.mem_cons, List.mem_singleton] at hpoint
  rcases hpoint with rfl | rfl
  · exact hrow.1
  · exact hrow.2

/-- A set that holds all code points with another case, or none, holds whole letters. -/
theorem Caseless.of_holdsFolded (found : Bool) (h : s.holdsFolded found = true) : s.Caseless := by
  refine .of_apart fun c d hcd _ _ => ?_
  by_cases hd : d.toNat ∈ Unicode.foldedPoints
  · by_cases hc : c.toNat ∈ Unicode.foldedPoints
    · rw [holdsApart_of_mem_foldedPoints h hc, holdsApart_of_mem_foldedPoints h hd]
    · obtain ⟨hself, hsources⟩ := Unicode.Folding.simple.fold_eq_self_of_not_mem hc
      rw [hcd.symm.eq_of_no_sources hself hsources]
  · obtain ⟨hself, hsources⟩ := Unicode.Folding.simple.fold_eq_self_of_not_mem hd
    rw [hcd.eq_of_no_sources hself hsources]

theorem caseless_words : words.Caseless :=
  .of_holdsFolded true (by decide +kernel)

/-- No digit has another case. -/
theorem caseless_digits : digits.Caseless :=
  .of_holdsFolded false (by decide +kernel)

/-- No white space has another case. -/
theorem caseless_spaces : spaces.Caseless :=
  .of_holdsFolded false (by decide +kernel)

end CharSet

end PatternGrammar
