/-!
# Simple case folding

Simple case folding sends each character to the one that stands for its letter in both cases: `K` and the Kelvin sign go
to `k`, the final sigma goes to `σ`. Two characters differ only in case exactly when they have the same fold. The table
is that of version 16 of the Unicode character database, the rows that map one character to one character.
-/

namespace PatternGrammar.Unicode

/-- A run of characters that fold in step: every `step`-th code point from `first` to `last` folds to the code point as
far from `target` as it is from `first`. -/
structure FoldBand where
  first : Nat
  last : Nat
  step : Nat
  target : Nat
  deriving DecidableEq, Repr

namespace FoldBand

def covers (b : FoldBand) (n : Nat) : Bool :=
  decide (b.first ≤ n ∧ n ≤ b.last ∧ (n - b.first) % b.step = 0)

def fold (b : FoldBand) (n : Nat) : Nat :=
  b.target + (n - b.first)

/-- The code point of the run that folds to `n`, if there is one. -/
def source? (b : FoldBand) (n : Nat) : Option Nat :=
  let m := b.first + (n - b.target)
  if b.target ≤ n ∧ b.covers m = true then some m else none

/-- What folds by a run is found again from its fold. -/
theorem source?_fold {b : FoldBand} {n : Nat} (h : b.covers n = true) : b.source? (b.fold n) = some n := by
  have hb : b.first ≤ n := by
    simp [covers] at h
    exact h.1
  have hn : b.first + (n - b.first) = n := by omega
  simp [source?, fold, hn, h]

end FoldBand

/-- The folds of all characters that do not fold to themselves, in ascending order. -/
def foldBands : List FoldBand :=
  [⟨0x41, 0x5A, 1, 0x61⟩, ⟨0xB5, 0xB5, 1, 0x3BC⟩, ⟨0xC0, 0xD6, 1, 0xE0⟩,
   ⟨0xD8, 0xDE, 1, 0xF8⟩, ⟨0x100, 0x12E, 2, 0x101⟩, ⟨0x132, 0x136, 2, 0x133⟩,
   ⟨0x139, 0x147, 2, 0x13A⟩, ⟨0x14A, 0x176, 2, 0x14B⟩, ⟨0x178, 0x178, 1, 0xFF⟩,
   ⟨0x179, 0x17D, 2, 0x17A⟩, ⟨0x17F, 0x17F, 1, 0x73⟩, ⟨0x181, 0x181, 1, 0x253⟩,
   ⟨0x182, 0x184, 2, 0x183⟩, ⟨0x186, 0x186, 1, 0x254⟩, ⟨0x187, 0x187, 1, 0x188⟩,
   ⟨0x189, 0x18A, 1, 0x256⟩, ⟨0x18B, 0x18B, 1, 0x18C⟩, ⟨0x18E, 0x18E, 1, 0x1DD⟩,
   ⟨0x18F, 0x18F, 1, 0x259⟩, ⟨0x190, 0x190, 1, 0x25B⟩, ⟨0x191, 0x191, 1, 0x192⟩,
   ⟨0x193, 0x193, 1, 0x260⟩, ⟨0x194, 0x194, 1, 0x263⟩, ⟨0x196, 0x196, 1, 0x269⟩,
   ⟨0x197, 0x197, 1, 0x268⟩, ⟨0x198, 0x198, 1, 0x199⟩, ⟨0x19C, 0x19C, 1, 0x26F⟩,
   ⟨0x19D, 0x19D, 1, 0x272⟩, ⟨0x19F, 0x19F, 1, 0x275⟩, ⟨0x1A0, 0x1A4, 2, 0x1A1⟩,
   ⟨0x1A6, 0x1A6, 1, 0x280⟩, ⟨0x1A7, 0x1A7, 1, 0x1A8⟩, ⟨0x1A9, 0x1A9, 1, 0x283⟩,
   ⟨0x1AC, 0x1AC, 1, 0x1AD⟩, ⟨0x1AE, 0x1AE, 1, 0x288⟩, ⟨0x1AF, 0x1AF, 1, 0x1B0⟩,
   ⟨0x1B1, 0x1B2, 1, 0x28A⟩, ⟨0x1B3, 0x1B5, 2, 0x1B4⟩, ⟨0x1B7, 0x1B7, 1, 0x292⟩,
   ⟨0x1B8, 0x1B8, 1, 0x1B9⟩, ⟨0x1BC, 0x1BC, 1, 0x1BD⟩, ⟨0x1C4, 0x1C4, 1, 0x1C6⟩,
   ⟨0x1C5, 0x1C5, 1, 0x1C6⟩, ⟨0x1C7, 0x1C7, 1, 0x1C9⟩, ⟨0x1C8, 0x1C8, 1, 0x1C9⟩,
   ⟨0x1CA, 0x1CA, 1, 0x1CC⟩, ⟨0x1CB, 0x1DB, 2, 0x1CC⟩, ⟨0x1DE, 0x1EE, 2, 0x1DF⟩,
   ⟨0x1F1, 0x1F1, 1, 0x1F3⟩, ⟨0x1F2, 0x1F4, 2, 0x1F3⟩, ⟨0x1F6, 0x1F6, 1, 0x195⟩,
   ⟨0x1F7, 0x1F7, 1, 0x1BF⟩, ⟨0x1F8, 0x21E, 2, 0x1F9⟩, ⟨0x220, 0x220, 1, 0x19E⟩,
   ⟨0x222, 0x232, 2, 0x223⟩, ⟨0x23A, 0x23A, 1, 0x2C65⟩, ⟨0x23B, 0x23B, 1, 0x23C⟩,
   ⟨0x23D, 0x23D, 1, 0x19A⟩, ⟨0x23E, 0x23E, 1, 0x2C66⟩, ⟨0x241, 0x241, 1, 0x242⟩,
   ⟨0x243, 0x243, 1, 0x180⟩, ⟨0x244, 0x244, 1, 0x289⟩, ⟨0x245, 0x245, 1, 0x28C⟩,
   ⟨0x246, 0x24E, 2, 0x247⟩, ⟨0x345, 0x345, 1, 0x3B9⟩, ⟨0x370, 0x372, 2, 0x371⟩,
   ⟨0x376, 0x376, 1, 0x377⟩, ⟨0x37F, 0x37F, 1, 0x3F3⟩, ⟨0x386, 0x386, 1, 0x3AC⟩,
   ⟨0x388, 0x38A, 1, 0x3AD⟩, ⟨0x38C, 0x38C, 1, 0x3CC⟩, ⟨0x38E, 0x38F, 1, 0x3CD⟩,
   ⟨0x391, 0x3A1, 1, 0x3B1⟩, ⟨0x3A3, 0x3AB, 1, 0x3C3⟩, ⟨0x3C2, 0x3C2, 1, 0x3C3⟩,
   ⟨0x3CF, 0x3CF, 1, 0x3D7⟩, ⟨0x3D0, 0x3D0, 1, 0x3B2⟩, ⟨0x3D1, 0x3D1, 1, 0x3B8⟩,
   ⟨0x3D5, 0x3D5, 1, 0x3C6⟩, ⟨0x3D6, 0x3D6, 1, 0x3C0⟩, ⟨0x3D8, 0x3EE, 2, 0x3D9⟩,
   ⟨0x3F0, 0x3F0, 1, 0x3BA⟩, ⟨0x3F1, 0x3F1, 1, 0x3C1⟩, ⟨0x3F4, 0x3F4, 1, 0x3B8⟩,
   ⟨0x3F5, 0x3F5, 1, 0x3B5⟩, ⟨0x3F7, 0x3F7, 1, 0x3F8⟩, ⟨0x3F9, 0x3F9, 1, 0x3F2⟩,
   ⟨0x3FA, 0x3FA, 1, 0x3FB⟩, ⟨0x3FD, 0x3FF, 1, 0x37B⟩, ⟨0x400, 0x40F, 1, 0x450⟩,
   ⟨0x410, 0x42F, 1, 0x430⟩, ⟨0x460, 0x480, 2, 0x461⟩, ⟨0x48A, 0x4BE, 2, 0x48B⟩,
   ⟨0x4C0, 0x4C0, 1, 0x4CF⟩, ⟨0x4C1, 0x4CD, 2, 0x4C2⟩, ⟨0x4D0, 0x52E, 2, 0x4D1⟩,
   ⟨0x531, 0x556, 1, 0x561⟩, ⟨0x10A0, 0x10C5, 1, 0x2D00⟩, ⟨0x10C7, 0x10C7, 1, 0x2D27⟩,
   ⟨0x10CD, 0x10CD, 1, 0x2D2D⟩, ⟨0x13F8, 0x13FD, 1, 0x13F0⟩, ⟨0x1C80, 0x1C80, 1, 0x432⟩,
   ⟨0x1C81, 0x1C81, 1, 0x434⟩, ⟨0x1C82, 0x1C82, 1, 0x43E⟩, ⟨0x1C83, 0x1C84, 1, 0x441⟩,
   ⟨0x1C85, 0x1C85, 1, 0x442⟩, ⟨0x1C86, 0x1C86, 1, 0x44A⟩, ⟨0x1C87, 0x1C87, 1, 0x463⟩,
   ⟨0x1C88, 0x1C88, 1, 0xA64B⟩, ⟨0x1C89, 0x1C89, 1, 0x1C8A⟩, ⟨0x1C90, 0x1CBA, 1, 0x10D0⟩,
   ⟨0x1CBD, 0x1CBF, 1, 0x10FD⟩, ⟨0x1E00, 0x1E94, 2, 0x1E01⟩, ⟨0x1E9B, 0x1E9B, 1, 0x1E61⟩,
   ⟨0x1E9E, 0x1E9E, 1, 0xDF⟩, ⟨0x1EA0, 0x1EFE, 2, 0x1EA1⟩, ⟨0x1F08, 0x1F0F, 1, 0x1F00⟩,
   ⟨0x1F18, 0x1F1D, 1, 0x1F10⟩, ⟨0x1F28, 0x1F2F, 1, 0x1F20⟩, ⟨0x1F38, 0x1F3F, 1, 0x1F30⟩,
   ⟨0x1F48, 0x1F4D, 1, 0x1F40⟩, ⟨0x1F59, 0x1F5F, 2, 0x1F51⟩, ⟨0x1F68, 0x1F6F, 1, 0x1F60⟩,
   ⟨0x1F88, 0x1F8F, 1, 0x1F80⟩, ⟨0x1F98, 0x1F9F, 1, 0x1F90⟩, ⟨0x1FA8, 0x1FAF, 1, 0x1FA0⟩,
   ⟨0x1FB8, 0x1FB9, 1, 0x1FB0⟩, ⟨0x1FBA, 0x1FBB, 1, 0x1F70⟩, ⟨0x1FBC, 0x1FBC, 1, 0x1FB3⟩,
   ⟨0x1FBE, 0x1FBE, 1, 0x3B9⟩, ⟨0x1FC8, 0x1FCB, 1, 0x1F72⟩, ⟨0x1FCC, 0x1FCC, 1, 0x1FC3⟩,
   ⟨0x1FD3, 0x1FD3, 1, 0x390⟩, ⟨0x1FD8, 0x1FD9, 1, 0x1FD0⟩, ⟨0x1FDA, 0x1FDB, 1, 0x1F76⟩,
   ⟨0x1FE3, 0x1FE3, 1, 0x3B0⟩, ⟨0x1FE8, 0x1FE9, 1, 0x1FE0⟩, ⟨0x1FEA, 0x1FEB, 1, 0x1F7A⟩,
   ⟨0x1FEC, 0x1FEC, 1, 0x1FE5⟩, ⟨0x1FF8, 0x1FF9, 1, 0x1F78⟩, ⟨0x1FFA, 0x1FFB, 1, 0x1F7C⟩,
   ⟨0x1FFC, 0x1FFC, 1, 0x1FF3⟩, ⟨0x2126, 0x2126, 1, 0x3C9⟩, ⟨0x212A, 0x212A, 1, 0x6B⟩,
   ⟨0x212B, 0x212B, 1, 0xE5⟩, ⟨0x2132, 0x2132, 1, 0x214E⟩, ⟨0x2160, 0x216F, 1, 0x2170⟩,
   ⟨0x2183, 0x2183, 1, 0x2184⟩, ⟨0x24B6, 0x24CF, 1, 0x24D0⟩, ⟨0x2C00, 0x2C2F, 1, 0x2C30⟩,
   ⟨0x2C60, 0x2C60, 1, 0x2C61⟩, ⟨0x2C62, 0x2C62, 1, 0x26B⟩, ⟨0x2C63, 0x2C63, 1, 0x1D7D⟩,
   ⟨0x2C64, 0x2C64, 1, 0x27D⟩, ⟨0x2C67, 0x2C6B, 2, 0x2C68⟩, ⟨0x2C6D, 0x2C6D, 1, 0x251⟩,
   ⟨0x2C6E, 0x2C6E, 1, 0x271⟩, ⟨0x2C6F, 0x2C6F, 1, 0x250⟩, ⟨0x2C70, 0x2C70, 1, 0x252⟩,
   ⟨0x2C72, 0x2C72, 1, 0x2C73⟩, ⟨0x2C75, 0x2C75, 1, 0x2C76⟩, ⟨0x2C7E, 0x2C7F, 1, 0x23F⟩,
   ⟨0x2C80, 0x2CE2, 2, 0x2C81⟩, ⟨0x2CEB, 0x2CED, 2, 0x2CEC⟩, ⟨0x2CF2, 0x2CF2, 1, 0x2CF3⟩,
   ⟨0xA640, 0xA66C, 2, 0xA641⟩, ⟨0xA680, 0xA69A, 2, 0xA681⟩, ⟨0xA722, 0xA72E, 2, 0xA723⟩,
   ⟨0xA732, 0xA76E, 2, 0xA733⟩, ⟨0xA779, 0xA77B, 2, 0xA77A⟩, ⟨0xA77D, 0xA77D, 1, 0x1D79⟩,
   ⟨0xA77E, 0xA786, 2, 0xA77F⟩, ⟨0xA78B, 0xA78B, 1, 0xA78C⟩, ⟨0xA78D, 0xA78D, 1, 0x265⟩,
   ⟨0xA790, 0xA792, 2, 0xA791⟩, ⟨0xA796, 0xA7A8, 2, 0xA797⟩, ⟨0xA7AA, 0xA7AA, 1, 0x266⟩,
   ⟨0xA7AB, 0xA7AB, 1, 0x25C⟩, ⟨0xA7AC, 0xA7AC, 1, 0x261⟩, ⟨0xA7AD, 0xA7AD, 1, 0x26C⟩,
   ⟨0xA7AE, 0xA7AE, 1, 0x26A⟩, ⟨0xA7B0, 0xA7B0, 1, 0x29E⟩, ⟨0xA7B1, 0xA7B1, 1, 0x287⟩,
   ⟨0xA7B2, 0xA7B2, 1, 0x29D⟩, ⟨0xA7B3, 0xA7B3, 1, 0xAB53⟩, ⟨0xA7B4, 0xA7C2, 2, 0xA7B5⟩,
   ⟨0xA7C4, 0xA7C4, 1, 0xA794⟩, ⟨0xA7C5, 0xA7C5, 1, 0x282⟩, ⟨0xA7C6, 0xA7C6, 1, 0x1D8E⟩,
   ⟨0xA7C7, 0xA7C9, 2, 0xA7C8⟩, ⟨0xA7CB, 0xA7CB, 1, 0x264⟩, ⟨0xA7CC, 0xA7CC, 1, 0xA7CD⟩,
   ⟨0xA7D0, 0xA7D0, 1, 0xA7D1⟩, ⟨0xA7D6, 0xA7DA, 2, 0xA7D7⟩, ⟨0xA7DC, 0xA7DC, 1, 0x19B⟩,
   ⟨0xA7F5, 0xA7F5, 1, 0xA7F6⟩, ⟨0xAB70, 0xABBF, 1, 0x13A0⟩, ⟨0xFB05, 0xFB05, 1, 0xFB06⟩,
   ⟨0xFF21, 0xFF3A, 1, 0xFF41⟩, ⟨0x10400, 0x10427, 1, 0x10428⟩, ⟨0x104B0, 0x104D3, 1, 0x104D8⟩,
   ⟨0x10570, 0x1057A, 1, 0x10597⟩, ⟨0x1057C, 0x1058A, 1, 0x105A3⟩, ⟨0x1058C, 0x10592, 1, 0x105B3⟩,
   ⟨0x10594, 0x10595, 1, 0x105BB⟩, ⟨0x10C80, 0x10CB2, 1, 0x10CC0⟩, ⟨0x10D50, 0x10D65, 1, 0x10D70⟩,
   ⟨0x118A0, 0x118BF, 1, 0x118C0⟩, ⟨0x16E40, 0x16E5F, 1, 0x16E60⟩, ⟨0x1E900, 0x1E921, 1, 0x1E922⟩]

/-- The run that covers code point `n`. The runs are in ascending order, so the first one that starts past `n` ends the
search. -/
def coveringBand? : List FoldBand → Nat → Option FoldBand
  | [], _ => none
  | b :: bs, n => if n < b.first then none else if b.covers n then some b else coveringBand? bs n

theorem mem_of_coveringBand? {bs : List FoldBand} {n : Nat} {b : FoldBand} (h : coveringBand? bs n = some b) :
    b ∈ bs ∧ b.covers n = true := by
  induction bs with
  | nil => simp [coveringBand?] at h
  | cons a as ih =>
    simp only [coveringBand?] at h
    split at h
    · simp at h
    · split at h
      · rename_i hc
        simp only [Option.some.injEq] at h
        subst h
        exact ⟨by simp, hc⟩
      · exact ⟨List.mem_cons_of_mem _ (ih h).1, (ih h).2⟩

def foldPoint (n : Nat) : Nat :=
  match coveringBand? foldBands n with
  | some b => b.fold n
  | none => n

/-- The code points other than `n` whose fold is `n`. -/
def foldSources (n : Nat) : List Nat :=
  foldBands.filterMap (·.source? n)

/-- Every code point is its own fold or one of the sources of its fold. -/
theorem mem_foldSources_foldPoint (n : Nat) : n = foldPoint n ∨ n ∈ foldSources (foldPoint n) := by
  unfold foldSources foldPoint
  split
  · rename_i b hb
    have := mem_of_coveringBand? hb
    exact .inr (List.mem_filterMap.mpr ⟨b, this.1, FoldBand.source?_fold this.2⟩)
  · exact .inl rfl

/-- The code points that fold to others, and those to which others fold. -/
def foldedPoints : List Nat :=
  foldBands.flatMap fun b =>
    (List.range ((b.last - b.first) / b.step + 1)).flatMap fun k =>
      [b.first + k * b.step, b.target + k * b.step]

/-- The fold of a code point when only the 26 letters of ASCII have case. -/
def asciiFoldPoint (n : Nat) : Nat :=
  if 0x41 ≤ n ∧ n ≤ 0x5A then n + 0x20 else n

def asciiFoldSources (n : Nat) : List Nat :=
  if 0x61 ≤ n ∧ n ≤ 0x7A then [n - 0x20] else []

theorem mem_asciiFoldSources_asciiFoldPoint (n : Nat) :
    n = asciiFoldPoint n ∨ n ∈ asciiFoldSources (asciiFoldPoint n) := by
  unfold asciiFoldSources asciiFoldPoint
  split
  · rename_i h
    right
    rw [if_pos (by omega)]
    simp
  · exact .inl rfl

/-- Which characters count as the same letter. -/
inductive Folding where
  /-- Every character only itself. -/
  | exact
  /-- Upper and lower case of the ASCII letters. -/
  | ascii
  /-- Equal simple case folds. -/
  | simple
  deriving DecidableEq, Repr

namespace Folding

def fold : Folding → Nat → Nat
  | exact, n => n
  | ascii, n => asciiFoldPoint n
  | simple, n => foldPoint n

/-- The code points other than `n` for which `n` stands. -/
def sources : Folding → Nat → List Nat
  | exact, _ => []
  | ascii, n => asciiFoldSources n
  | simple, n => foldSources n

theorem mem_sources_fold (f : Folding) (n : Nat) : n = f.fold n ∨ n ∈ f.sources (f.fold n) := by
  cases f with
  | exact => exact .inl rfl
  | ascii => exact mem_asciiFoldSources_asciiFoldPoint n
  | simple => exact mem_foldSources_foldPoint n

/-- A code point that is neither folded nor folded to stands for itself alone. -/
theorem fold_eq_self_of_not_mem (f : Folding) {n : Nat} (h : n ∉ foldedPoints) : f.fold n = n ∧ f.sources n = [] := by
  have inRun (b : FoldBand) (mem : b ∈ foldBands) (m : Nat) (hm : b.covers m = true) :
      m ∈ foldedPoints ∧ b.target + (m - b.first) ∈ foldedPoints := by
    simp only [FoldBand.covers, decide_eq_true_eq] at hm
    have hk := Nat.div_add_mod' (m - b.first) b.step
    have hlt : (m - b.first) / b.step < (b.last - b.first) / b.step + 1 :=
      Nat.lt_succ_of_le (Nat.div_le_div_right (by omega))
    simp only [foldedPoints, List.mem_flatMap, List.mem_range, List.mem_cons]
    exact ⟨⟨b, mem, _, hlt, .inl (by omega)⟩, ⟨b, mem, _, hlt, .inr (.inl (by omega))⟩⟩
  cases f with
  | exact => exact ⟨rfl, rfl⟩
  | ascii =>
    have latin : (⟨0x41, 0x5A, 1, 0x61⟩ : FoldBand) ∈ foldBands := List.mem_cons_self
    have upper : ¬(0x41 ≤ n ∧ n ≤ 0x5A) := fun hn =>
      h (inRun _ latin n (by simp [FoldBand.covers, Nat.mod_one, hn])).1
    have lower : ¬(0x61 ≤ n ∧ n ≤ 0x7A) := fun hn => by
      have := (inRun _ latin (n - 0x20) (by simp [FoldBand.covers, Nat.mod_one]; omega)).2
      rw [show 0x61 + (n - 0x20 - 0x41) = n by omega] at this
      exact h this
    simp [fold, sources, asciiFoldPoint, asciiFoldSources, upper, lower]
  | simple =>
    constructor
    · simp only [fold, foldPoint]
      split
      · rename_i b hb
        have ⟨mem, cov⟩ := mem_of_coveringBand? hb
        exact absurd (inRun b mem n cov).1 h
      · rfl
    · simp only [sources, foldSources, List.filterMap_eq_nil_iff]
      intro b mem
      simp only [FoldBand.source?]
      rw [if_neg]
      rintro ⟨le, cov⟩
      have := (inRun b mem _ cov).2
      rw [show b.target + (b.first + (n - b.target) - b.first) = n by omega] at this
      exact h this

/-- No run of letters comes near the code points from `0xD7FF` to `0xE000`. -/
theorem foldBands_apart : ∀ b ∈ foldBands, (b.last < 0xD7FF ∨ 0xE000 < b.first) ∧
    (b.target + (b.last - b.first) < 0xD7FF ∨ 0xE000 < b.target) := by
  decide +kernel

theorem fold_eq_self (f : Folding) {n : Nat} (lo : 0xD7FF ≤ n) (hi : n ≤ 0xE000) : f.fold n = n := by
  cases f with
  | exact => rfl
  | ascii => simp [fold, asciiFoldPoint]; omega
  | simple =>
    simp only [fold, foldPoint]
    split
    · rename_i b hb
      have ⟨mem, cov⟩ := mem_of_coveringBand? hb
      have := foldBands_apart b mem
      simp [FoldBand.covers] at cov
      omega
    · rfl

theorem sources_eq_nil (f : Folding) {n : Nat} (lo : 0xD7FF ≤ n) (hi : n ≤ 0xE000) : f.sources n = [] := by
  cases f with
  | exact => rfl
  | ascii => simp [sources, asciiFoldSources]; omega
  | simple =>
    simp only [sources, foldSources, List.filterMap_eq_nil_iff]
    intro b mem
    have := foldBands_apart b mem
    simp only [FoldBand.source?, FoldBand.covers, decide_eq_true_eq]
    rw [if_neg]
    omega

/-- A code point that folds to one from `0xD7FF` to `0xE000` is that one. -/
theorem eq_of_fold_eq (f : Folding) {m n : Nat} (lo : 0xD7FF ≤ n) (hi : n ≤ 0xE000) (h : f.fold m = n) : m = n := by
  rcases f.mem_sources_fold m with e | e
  · rw [← h, ← e]
  · rw [h, f.sources_eq_nil lo hi] at e
    simp at e

end Folding

end PatternGrammar.Unicode
