import PatternGrammar.Unicode.Band
import PatternGrammar.Unicode.Folding

/-!
# Sets of characters

A set of characters is described by how it is built, and `CharSet.holds` says which code points it has. Case is taken
into account where a set is built from its parts: `alike` and `closure` hold whole letters, and a set of whole letters
stays one under union, intersection, difference and complement.

A set is a row of stretches, and the surrogates, which are no characters, lie between two neighbours: the character
after U+D7FF is U+E000. A stretch may go across them or end there. This seam is the one place where the complement of a
set may hold characters of the set.
-/

namespace PatternGrammar

open Unicode

inductive CharSet where
  /-- The code points of some bands in ascending order. -/
  | bands (bs : List Band)
  /-- The code points whose fold is `n`. -/
  | alike (f : Folding) (n : Nat)
  /-- The code points that have the same fold as some member of the set. -/
  | closure (f : Folding) (s : CharSet)
  | union (s t : CharSet)
  | inter (s t : CharSet)
  | diff (s t : CharSet)
  | symmDiff (s t : CharSet)
  | compl (s : CharSet)
  /-- The members of a set that are characters of ASCII. -/
  | asciiOnly (s : CharSet)
  deriving DecidableEq, Repr

namespace CharSet

/-- Whether code point `n` is a member, for any `n` apart from the surrogates and their neighbours. -/
def holdsApart : CharSet → Nat → Bool
  | bands bs, n => Unicode.holds bs n
  | alike f m, n => f.fold n == m
  | closure f s, n => s.holdsApart (f.fold n) || (f.sources (f.fold n)).any fun m => s.holdsApart m
  | union s t, n => s.holdsApart n || t.holdsApart n
  | inter s t, n => s.holdsApart n && t.holdsApart n
  | diff s t, n => s.holdsApart n && !t.holdsApart n
  | symmDiff s t, n => s.holdsApart n != t.holdsApart n
  | compl s, n => !s.holdsApart n
  | asciiOnly s, n => decide (n < 0x80) && s.holdsApart n

/-- What a set holds at the surrogates: U+D7FF before them, the surrogates if a stretch goes across them, and U+E000
after them. -/
structure Seam where
  before : Bool
  across : Bool
  after : Bool
  deriving DecidableEq, Repr

/-- The seam of a complement. The complement of a row of stretches goes from the character after each stretch to the
character before the next one. Between a stretch that ends with U+D7FF and one that begins with U+E000 it has these two
characters, as the first is the one before the second and the second the one after the first. -/
def Seam.compl (m : Seam) : Seam :=
  if m.before && m.after then ⟨!m.across, !m.across, !m.across⟩
  else ⟨!m.before, !m.before && !m.after, !m.after⟩

/-- The seam of a set. No letter is next to the surrogates. -/
def seam : CharSet → Seam
  | bands bs => ⟨Unicode.holds bs 0xD7FF, Unicode.holds bs 0xD800, Unicode.holds bs 0xE000⟩
  | alike _ n => ⟨n == 0xD7FF, false, n == 0xE000⟩
  | closure _ s => s.seam
  | union s t =>
      ⟨s.seam.before || t.seam.before, s.seam.across || t.seam.across, s.seam.after || t.seam.after⟩
  | inter s t =>
      ⟨s.seam.before && t.seam.before, s.seam.across && t.seam.across, s.seam.after && t.seam.after⟩
  | diff s t =>
      ⟨s.seam.before && !t.seam.before, s.seam.across && !(t.seam.before || t.seam.after),
        s.seam.after && !t.seam.after⟩
  | symmDiff s t =>
      ⟨s.seam.before != t.seam.before,
        (s.seam.across || t.seam.across) && !(s.seam.before && t.seam.before || s.seam.after && t.seam.after),
        s.seam.after != t.seam.after⟩
  | compl s => s.seam.compl
  | asciiOnly _ => ⟨false, false, false⟩

/-- Whether code point `n` is a surrogate or next to one. -/
def isAtSeam (n : Nat) : Bool :=
  decide (0xD7FF ≤ n ∧ n ≤ 0xE000)

def Seam.holds (m : Seam) (n : Nat) : Bool :=
  if n = 0xD7FF then m.before else if n = 0xE000 then m.after else m.across

def holds (s : CharSet) (n : Nat) : Bool :=
  if isAtSeam n then s.seam.holds n else s.holdsApart n

def mem (s : CharSet) (c : Char) : Bool :=
  s.holds c.toNat

def empty : CharSet :=
  bands []

def all : CharSet :=
  compl empty

def range (lo hi : Nat) : CharSet :=
  bands [⟨lo, hi, 1⟩]

def single (n : Nat) : CharSet :=
  range n n

def ascii : CharSet :=
  range 0 0x7F

def unions : List CharSet → CharSet
  | [] => empty
  | [s] => s
  | s :: t :: ss => union s (unions (t :: ss))

def negateIf (negated : Bool) (s : CharSet) : CharSet :=
  if negated then compl s else s

/-- The letters that a code point stands for under a folding. -/
def letter (f : Folding) (n : Nat) : CharSet :=
  alike f (f.fold n)

theorem holds_of_isAtSeam {s : CharSet} {n : Nat} (h : isAtSeam n = true) : s.holds n = s.seam.holds n := by
  simp [holds, h]

theorem holds_of_not_isAtSeam {s : CharSet} {n : Nat} (h : isAtSeam n = false) : s.holds n = s.holdsApart n := by
  simp [holds, h]

theorem isAtSeam_iff {n : Nat} : isAtSeam n = true ↔ 0xD7FF ≤ n ∧ n ≤ 0xE000 := by
  simp [isAtSeam]

/-- The two characters at the seam. -/
theorem toNat_of_isAtSeam {c : Char} (h : isAtSeam c.toNat = true) : c.toNat = 0xD7FF ∨ c.toNat = 0xE000 := by
  have valid : c.toNat < 0xD800 ∨ 0xDFFF < c.toNat ∧ c.toNat < 0x110000 := c.valid
  rw [isAtSeam_iff] at h
  omega

/-- A closure holds characters of one fold together. -/
theorem mem_closure_congr {f : Folding} (s : CharSet) {c d : Char} (h : f.fold c.toNat = f.fold d.toNat) :
    (closure f s).mem c = (closure f s).mem d := by
  have apart {c d : Char} (hc : isAtSeam c.toNat = true) (h : f.fold c.toNat = f.fold d.toNat) :
      c.toNat = d.toNat := by
    have ⟨lo, hi⟩ := isAtSeam_iff.mp hc
    rw [f.fold_eq_self lo hi] at h
    exact (f.eq_of_fold_eq lo hi h.symm).symm
  cases hc : isAtSeam c.toNat with
  | true => simp only [mem, apart hc h]
  | false =>
    cases hd : isAtSeam d.toNat with
    | true => simp only [mem, apart hd h.symm]
    | false => simp only [mem, holds_of_not_isAtSeam hc, holds_of_not_isAtSeam hd, holdsApart, h]

theorem mem_letter_iff {f : Folding} {n : Nat} {c : Char} :
    (letter f n).mem c = true ↔ f.fold c.toNat = f.fold n := by
  cases hc : isAtSeam c.toNat with
  | true =>
    have ⟨lo, hi⟩ := isAtSeam_iff.mp hc
    rw [f.fold_eq_self lo hi, mem, holds_of_isAtSeam hc]
    rcases toNat_of_isAtSeam hc with e | e <;> rw [e]
    · simp only [letter, seam, Seam.holds, ↓reduceIte, beq_iff_eq]
      exact eq_comm
    · simp only [letter, seam, Seam.holds, if_neg (show ¬(0xE000 = 0xD7FF) by decide), ↓reduceIte, beq_iff_eq]
      exact eq_comm
  | false => simp [letter, mem, holds_of_not_isAtSeam hc, holdsApart]

end CharSet

end PatternGrammar
