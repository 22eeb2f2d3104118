import PatternGrammar.Proofs.Config.Cursor

/-!
# Numbers

Numbers that are skipped are those of the grammar, and numbers that are read as an integer below `2 ^ 64` are the
decimal digits of that integer. A number ends where neither a digit, nor a point, nor an exponent comes next.
-/

namespace PatternGrammar.Config

open Json (Digits Whole Fraction Exponent Unsigned)

/-- After these bytes a number has ended. -/
def NumberEnds (rest : List UInt8) : Prop :=
  ∀ b, rest.head? = some b → isDigit b = false ∧ (b == 0x2E) = false ∧ isExponentMark b = false

/-! ## Digits -/

theorem toNat_of_isDigit {ch : Char} (h : ch.isDigit) : 48 ≤ ch.toNat ∧ ch.toNat ≤ 57 := by
  simp only [Char.isDigit, Bool.and_eq_true, decide_eq_true_eq] at h
  exact ⟨h.1, h.2⟩

theorem isDigit_iff {ch : Char} : ch.isDigit = true ↔ 48 ≤ ch.toNat ∧ ch.toNat ≤ 57 := by
  refine ⟨toNat_of_isDigit, fun h => ?_⟩
  simp only [Char.isDigit, Bool.and_eq_true, decide_eq_true_eq]
  exact h

theorem isDigit_byte {b : UInt8} (h : isDigit b = true) : b.toNat < 128 ∧ (Text.charOf b).isDigit := by
  simp only [isDigit, decide_eq_true_eq] at h
  have hsmall : b.toNat < 128 := by omega
  refine ⟨hsmall, isDigit_iff.mpr ?_⟩
  rw [Text.toNat_charOf]
  omega

theorem isDigit_char {ch : Char} (h : ch.isDigit) : ch.toNat < 128 ∧ isDigit (Text.byteOf ch) = true := by
  have hbounds := isDigit_iff.mp h
  have hsmall : ch.toNat < 128 := by omega
  refine ⟨hsmall, ?_⟩
  rw [isDigit, Text.toNat_byteOf hsmall]
  exact decide_eq_true hbounds

theorem beq_of_isDigit {b x : UInt8} (hb : isDigit b = true) (hx : isDigit x = false) : (b == x) = false := by
  rw [beq_eq_false_iff_ne]
  rintro rfl
  rw [hb] at hx
  contradiction

theorem utf8_digits {digits : Text} (h : ∀ ch ∈ digits, ch.isDigit) : ∀ b ∈ Text.utf8 digits, isDigit b = true := by
  intro b hb
  rw [Text.utf8_small fun ch hch => (isDigit_char (h ch hch)).1] at hb
  obtain ⟨ch, hch, rfl⟩ := List.mem_map.mp hb
  exact (isDigit_char (h ch hch)).2

/-- The digits that are taken stand in front of the cursor. -/
theorem takeDigits_sound (c : Cursor) :
    ∃ digits : Text, (∀ ch ∈ digits, ch.isDigit) ∧ (takeDigits c).1 = Text.utf8 digits ∧
      c.rest = Text.utf8 digits ++ (takeDigits c).2.rest := by
  have hdigit : ∀ b ∈ c.rest.takeWhile isDigit, isDigit b = true := List.all_eq_true.mp List.all_takeWhile
  have hbytes := Text.utf8_map_charOf fun b hb => (isDigit_byte (hdigit b hb)).1
  refine ⟨(c.rest.takeWhile isDigit).map Text.charOf, ?_, hbytes.symm, ?_⟩
  · intro ch hch
    obtain ⟨b, hb, rfl⟩ := List.mem_map.mp hch
    exact (isDigit_byte (hdigit b hb)).2
  · rw [hbytes, takeDigits, Cursor.rest_look, Cursor.rest_eatWhile, List.takeWhile_append_dropWhile]

/-- All digits up to something else are taken. -/
theorem takeDigits_complete {c : Cursor} {digits : Text} {rest : List UInt8} (hdigits : ∀ ch ∈ digits, ch.isDigit)
    (hc : c.rest = Text.utf8 digits ++ rest) (hrest : ∀ b, rest.head? = some b → isDigit b = false) :
    (takeDigits c).1 = Text.utf8 digits ∧ (takeDigits c).2.rest = rest := by
  have hall := utf8_digits hdigits
  have hnone : rest.takeWhile isDigit = [] ∧ rest.dropWhile isDigit = rest := by
    cases rest with
    | nil => exact ⟨rfl, rfl⟩
    | cons b rest =>
      have hb : ¬ isDigit b = true := by simp [hrest b rfl]
      exact ⟨List.takeWhile_cons_of_neg hb, List.dropWhile_cons_of_neg hb⟩
  constructor
  · rw [takeDigits, hc, List.takeWhile_append_of_pos hall, hnone.1, List.append_nil]
  · rw [takeDigits, Cursor.rest_look, Cursor.rest_eatWhile, hc, List.dropWhile_append_of_pos hall, hnone.2]

/-- The digits at a cursor whose next byte is a digit. -/
theorem takeDigits_of_head? {c : Cursor} {b : UInt8} (hhead : c.head? = some b) (hb : isDigit b = true) :
    ∃ digits, Digits digits ∧ (takeDigits c).1 = Text.utf8 digits ∧
      c.rest = Text.utf8 digits ++ (takeDigits c).2.rest := by
  obtain ⟨digits, hall, htaken, hpiece⟩ := takeDigits_sound c
  refine ⟨digits, ⟨?_, hall⟩, htaken, hpiece⟩
  rintro rfl
  have hbytes : (takeDigits c).1 = b :: c.eat.rest.takeWhile isDigit := by
    rw [takeDigits, Cursor.rest_eq_of_head? hhead, List.takeWhile_cons_of_pos hb]
  rw [hbytes, Text.utf8_nil] at htaken
  exact List.cons_ne_nil _ _ htaken

/-- The first byte of some digits. -/
theorem head?_of_digits {c : Cursor} {digits : Text} {rest : List UInt8} (hdigits : Digits digits)
    (hc : c.rest = Text.utf8 digits ++ rest) : ∃ b, c.head? = some b ∧ isDigit b = true := by
  obtain ⟨hne, hall⟩ := hdigits
  cases digits with
  | nil => exact absurd rfl hne
  | cons ch tail =>
    have hch := isDigit_char (hall ch List.mem_cons_self)
    rw [Text.utf8_cons, Text.encode_small hch.1] at hc
    exact ⟨Text.byteOf ch, Cursor.head?_of_rest hc, hch.2⟩

theorem byteOf_eq_zero {ch : Char} (h : ch.isDigit) : (Text.byteOf ch == 0x30) = true ↔ ch = '0' := by
  constructor
  · intro heq
    have hsmall := (isDigit_char h).1
    have hnat : (Text.byteOf ch).toNat = 48 := congrArg UInt8.toNat (eq_of_beq heq)
    rw [Text.toNat_byteOf hsmall] at hnat
    exact Char.toNat_inj.mp hnat
  · rintro rfl
    rfl

/-- The digits before the point. That no digit follows a zero is asked by those who take them. -/
theorem takeWhole_sound {c : Cursor} {first : UInt8} (hhead : c.head? = some first) (hfirst : isDigit first = true)
    (hlead : (first == 0x30 && (takeWhole first c).2.head?.any isDigit) = false) :
    ∃ digits, Whole digits ∧ (takeWhole first c).1 = Text.utf8 digits ∧
      c.rest = Text.utf8 digits ++ (takeWhole first c).2.rest := by
  have hrest := Cursor.rest_eq_of_head? hhead
  -- a zero is taken alone, any other digit with all that follow it
  by_cases hzero : (first == 0x30) = true
  · obtain rfl : first = 0x30 := eq_of_beq hzero
    refine ⟨['0'], ⟨⟨by simp, by simp⟩, fun _ => rfl⟩, ?_, ?_⟩
    · rfl
    · exact hrest
  · have htake : takeWhole first c = takeDigits c := by rw [takeWhole, if_neg hzero]
    obtain ⟨digits, hdigits, htaken, hpiece⟩ := takeDigits_of_head? hhead hfirst
    rw [htake]
    refine ⟨digits, ⟨hdigits, fun hhead0 => ?_⟩, htaken, hpiece⟩
    obtain ⟨tail, rfl⟩ := List.head?_eq_some_iff.mp hhead0
    rw [Text.utf8_cons, hrest] at hpiece
    have hfirst0 : first = 0x30 := (List.cons.inj hpiece).1
    exact absurd (beq_iff_eq.mpr hfirst0) hzero

/-- The digits before the point are taken in full, as a zero is not followed by others. -/
theorem takeWhole_complete {c : Cursor} {digits : Text} {rest : List UInt8} (hdigits : Whole digits)
    (hc : c.rest = Text.utf8 digits ++ rest) (hrest : ∀ b, rest.head? = some b → isDigit b = false) :
    ∃ first, c.head? = some first ∧ isDigit first = true ∧ (takeWhole first c).1 = Text.utf8 digits ∧
      (takeWhole first c).2.rest = rest := by
  obtain ⟨⟨hne, hall⟩, hzero⟩ := hdigits
  cases digits with
  | nil => exact absurd rfl hne
  | cons ch tail =>
    have hch : ch.isDigit := hall ch List.mem_cons_self
    have hfirst := isDigit_char hch
    have hbytes : c.rest = Text.byteOf ch :: (Text.utf8 tail ++ rest) := by
      rw [hc, Text.utf8_cons, Text.encode_small hfirst.1]
      rfl
    refine ⟨Text.byteOf ch, Cursor.head?_of_rest hbytes, hfirst.2, ?_⟩
    by_cases h0 : ch = '0'
    · subst h0
      obtain rfl : tail = [] := (List.cons.inj (hzero rfl)).2
      exact ⟨rfl, Cursor.rest_eat_of_rest hbytes⟩
    · rw [takeWhole, if_neg fun h => h0 ((byteOf_eq_zero hch).mp h)]
      exact takeDigits_complete hall hc hrest

/-! ## Numbers that are skipped -/

theorem takeSign_sound (c : Cursor) :
    ∃ sign, sign ∈ [[], ['+'], ['-']] ∧ c.rest = Text.utf8 sign ++ (takeSign c).2.rest := by
  unfold takeSign
  split
  · next b hb =>
    have hrest := Cursor.rest_eq_of_head? hb
    split
    · next hplus =>
      obtain rfl : b = 0x2B := eq_of_beq hplus
      exact ⟨['+'], by simp, hrest⟩
    split
    · next hminus =>
      obtain rfl : b = 0x2D := eq_of_beq hminus
      exact ⟨['-'], by simp, hrest⟩
    · exact ⟨[], by simp, rfl⟩
  · exact ⟨[], by simp, rfl⟩

/-- A sign in front of digits is taken. -/
theorem takeSign_complete {c : Cursor} {sign digits : Text} {rest : List UInt8} (hsign : sign ∈ [[], ['+'], ['-']])
    (hdigits : Digits digits) (hc : c.rest = Text.utf8 (sign ++ digits) ++ rest) :
    (takeSign c).2.rest = Text.utf8 digits ++ rest := by
  simp only [List.mem_cons, List.not_mem_nil, or_false] at hsign
  obtain rfl | rfl | rfl := hsign
  · -- the digit that comes first is not taken for a sign
    obtain ⟨b, hhead, hb⟩ := head?_of_digits hdigits hc
    have hplus : (b == 0x2B) = false := beq_of_isDigit hb (by decide)
    have hminus : (b == 0x2D) = false := beq_of_isDigit hb (by decide)
    rw [takeSign, hhead]
    simp only [hplus, hminus]
    exact hc
  · have hbytes : c.rest = 0x2B :: (Text.utf8 digits ++ rest) := hc
    rw [takeSign, Cursor.head?_of_rest hbytes]
    exact Cursor.rest_eat_of_rest hbytes
  · have hbytes : c.rest = 0x2D :: (Text.utf8 digits ++ rest) := hc
    rw [takeSign, Cursor.head?_of_rest hbytes]
    exact Cursor.rest_eat_of_rest hbytes

theorem skipExponent_sound {c c' : Cursor} (h : skipExponent c = .ok c') :
    ∃ sign digits, sign ∈ [[], ['+'], ['-']] ∧ Digits digits ∧ c.rest = Text.utf8 (sign ++ digits) ++ c'.rest := by
  simp only [skipExponent] at h
  split at h
  · contradiction
  · next b hhead =>
    split at h
    · next hb =>
      obtain rfl : (takeDigits (takeSign c).2).2 = c' := Except.ok.inj h
      obtain ⟨sign, hsign, hbefore⟩ := takeSign_sound c
      obtain ⟨digits, hdigits, -, hafter⟩ := takeDigits_of_head? hhead hb
      exact ⟨sign, digits, hsign, hdigits, pieces_append hbefore hafter⟩
    · contradiction

theorem skipExponent_complete {c : Cursor} {sign digits : Text} {rest : List UInt8}
    (hsign : sign ∈ [[], ['+'], ['-']]) (hdigits : Digits digits) (hc : c.rest = Text.utf8 (sign ++ digits) ++ rest)
    (hrest : ∀ b, rest.head? = some b → isDigit b = false) : ∃ c', skipExponent c = .ok c' ∧ c'.rest = rest := by
  have hskip := takeSign_complete hsign hdigits hc
  obtain ⟨b, hhead, hb⟩ := head?_of_digits hdigits hskip
  refine ⟨(takeDigits (takeSign c).2).2, ?_, (takeDigits_complete hdigits.2 hskip hrest).2⟩
  simp only [skipExponent, hhead, hb, if_true]

theorem isExponentMark_byte {b : UInt8} (h : isExponentMark b = true) :
    ∃ mark, mark ∈ ['e', 'E'] ∧ Text.utf8 [mark] = [b] := by
  simp only [isExponentMark, Bool.or_eq_true, beq_iff_eq] at h
  obtain rfl | rfl := h
  · exact ⟨'e', by simp, rfl⟩
  · exact ⟨'E', by simp, rfl⟩

theorem skipScale_sound {c c' : Cursor} (h : skipScale c = .ok c') :
    ∃ exponent, Exponent exponent ∧ c.rest = Text.utf8 exponent ++ c'.rest := by
  have hstay : c = c' → ∃ exponent, Exponent exponent ∧ c.rest = Text.utf8 exponent ++ c'.rest := by
    rintro rfl
    exact ⟨[], .none, rfl⟩
  unfold skipScale at h
  split at h
  · next b hhead =>
    split at h
    · next hb =>
      obtain ⟨mark, hmark, hbyte⟩ := isExponentMark_byte hb
      obtain ⟨sign, digits, hsign, hdigits, hrest⟩ := skipExponent_sound h
      have hfirst : c.rest = Text.utf8 [mark] ++ c.eat.rest := by
        rw [hbyte]
        exact Cursor.rest_eq_of_head? hhead
      exact ⟨mark :: (sign ++ digits), .some hmark hsign hdigits, pieces_append hfirst hrest⟩
    · exact hstay (Except.ok.inj h)
  · exact hstay (Except.ok.inj h)

theorem skipScale_complete {c : Cursor} {exponent : Text} {rest : List UInt8} (hexponent : Exponent exponent)
    (hc : c.rest = Text.utf8 exponent ++ rest) (hrest : NumberEnds rest) :
    ∃ c', skipScale c = .ok c' ∧ c'.rest = rest := by
  cases hexponent with
  | none =>
    have hsame : c.rest = rest := hc
    refine ⟨c, ?_, hsame⟩
    unfold skipScale
    split
    · next b hhead =>
      have hnone : isExponentMark b = false := (hrest b (hsame ▸ hhead)).2.2
      rw [hnone]
      rfl
    · rfl
  | @some mark sign digits hmark hsign hdigits =>
    have hbytes : ∃ b, isExponentMark b = true ∧ c.rest = b :: (Text.utf8 (sign ++ digits) ++ rest) := by
      simp only [List.mem_cons, List.not_mem_nil, or_false] at hmark
      obtain rfl | rfl := hmark
      · exact ⟨0x65, rfl, hc⟩
      · exact ⟨0x45, rfl, hc⟩
    obtain ⟨b, hb, hbytes⟩ := hbytes
    obtain ⟨c', hskip, hc'⟩ := skipExponent_complete hsign hdigits (Cursor.rest_eat_of_rest hbytes)
      fun b hb => (hrest b hb).1
    refine ⟨c', ?_, hc'⟩
    simp only [skipScale, Cursor.head?_of_rest hbytes, hb, if_true]
    exact hskip

/-- What is skipped behind a point is digits, and an exponent, if any. -/
theorem skipFraction_sound {c c' : Cursor} (h : skipFraction c = .ok c') :
    ∃ digits exponent, Digits digits ∧ Exponent exponent ∧ c.rest = Text.utf8 (digits ++ exponent) ++ c'.rest := by
  simp only [skipFraction] at h
  split at h
  · contradiction
  · next hne =>
    obtain ⟨digits, hall, htaken, hbefore⟩ := takeDigits_sound c
    obtain ⟨exponent, hexponent, hafter⟩ := skipScale_sound h
    refine ⟨digits, exponent, ⟨?_, hall⟩, hexponent, pieces_append hbefore hafter⟩
    rintro rfl
    simp [htaken] at hne

/-- What comes after the digits of a number is neither a digit nor a point. -/
theorem head?_of_exponent {exponent : Text} {rest : List UInt8} (hexponent : Exponent exponent)
    (hrest : NumberEnds rest) {b : UInt8} (hb : (Text.utf8 exponent ++ rest).head? = some b) :
    isDigit b = false ∧ (b == 0x2E) = false := by
  cases hexponent with
  | none => exact ⟨(hrest b hb).1, (hrest b hb).2.1⟩
  | some hmark hsign hdigits =>
    simp only [List.mem_cons, List.not_mem_nil, or_false] at hmark
    obtain rfl | rfl := hmark
    · obtain rfl : 0x65 = b := Option.some.inj hb
      decide
    · obtain rfl : 0x45 = b := Option.some.inj hb
      decide

theorem skipFraction_complete {c : Cursor} {digits exponent : Text} {rest : List UInt8} (hdigits : Digits digits)
    (hexponent : Exponent exponent) (hc : c.rest = Text.utf8 (digits ++ exponent) ++ rest)
    (hrest : NumberEnds rest) : ∃ c', skipFraction c = .ok c' ∧ c'.rest = rest := by
  rw [Text.utf8_append, List.append_assoc] at hc
  have htake := takeDigits_complete hdigits.2 hc fun b hb => (head?_of_exponent hexponent hrest hb).1
  obtain ⟨c', hskip, hc'⟩ := skipScale_complete hexponent htake.2 hrest
  refine ⟨c', ?_, hc'⟩
  have hsome : (takeDigits c).1.isEmpty = false := by
    rw [htake.1, List.isEmpty_eq_false_iff, ne_eq, Text.utf8_eq_nil]
    exact hdigits.1
  simp only [skipFraction, hsome]
  exact hskip

/-- The first byte of a number after its sign. -/
theorem exists_digit_of_unsigned {t : Text} (ht : Unsigned t) :
    ∃ b bytes, Text.utf8 t = b :: bytes ∧ isDigit b = true := by
  obtain @⟨whole, fraction, exponent, ⟨⟨hne, hall⟩, -⟩, -, -⟩ := ht
  cases whole with
  | nil => exact absurd rfl hne
  | cons ch tail =>
    have hch := isDigit_char (hall ch List.mem_cons_self)
    rw [List.cons_append, List.cons_append, Text.utf8_cons, Text.encode_small hch.1]
    exact ⟨Text.byteOf ch, _, rfl, hch.2⟩

/-- A number that is skipped after its sign is one of the grammar. -/
theorem skipNumber_sound {c c' : Cursor} (h : skipNumber c = .ok c') :
    ∃ t, Unsigned t ∧ c.rest = Text.utf8 t ++ c'.rest := by
  simp only [skipNumber] at h
  split at h
  · contradiction
  next first hhead =>
  split at h
  · contradiction
  next hfirst =>
  split at h
  · contradiction
  next hlead =>
  obtain ⟨whole, hwhole, -, hbefore⟩ :=
    takeWhole_sound hhead (by simpa using hfirst) (by simpa using hlead)
  split at h
  · next b hb =>
    split at h
    · next hpoint =>
      obtain rfl : b = 0x2E := eq_of_beq hpoint
      obtain ⟨digits, exponent, hdigits, hexponent, hafter⟩ := skipFraction_sound h
      have hbytes := Cursor.rest_eq_of_head? hb
      have hfraction := pieces_append (p := ['.']) hbytes hafter
      exact ⟨whole ++ ('.' :: digits) ++ exponent, .mk hwhole (.some hdigits) hexponent, by
        rw [List.append_assoc]; exact pieces_append hbefore hfraction⟩
    · obtain ⟨exponent, hexponent, hafter⟩ := skipScale_sound h
      exact ⟨whole ++ [] ++ exponent, .mk hwhole .none hexponent, by
        rw [List.append_nil]; exact pieces_append hbefore hafter⟩
  · -- the text ends with the digits
    obtain rfl := Except.ok.inj h
    exact ⟨whole ++ [] ++ [], .mk hwhole .none .none, by rw [List.append_nil, List.append_nil]; exact hbefore⟩

/-- A number is skipped in full if something else comes behind it. -/
theorem skipNumber_complete {c : Cursor} {t : Text} {rest : List UInt8} (ht : Unsigned t)
    (hc : c.rest = Text.utf8 t ++ rest) (hrest : NumberEnds rest) : ∃ c', skipNumber c = .ok c' ∧ c'.rest = rest := by
  obtain @⟨whole, fraction, exponent, hwhole, hfraction, hexponent⟩ := ht
  rw [List.append_assoc, Text.utf8_append, List.append_assoc] at hc
  -- the digits before the point are all that is taken of the number at first
  have hstop : ∀ b, (Text.utf8 (fraction ++ exponent) ++ rest).head? = some b → isDigit b = false := by
    intro b hb
    cases hfraction with
    | none => exact (head?_of_exponent hexponent hrest hb).1
    | some hdigits =>
      obtain rfl : 0x2E = b := Option.some.inj hb
      decide
  obtain ⟨first, hhead, hfirst, -, hafter⟩ := takeWhole_complete hwhole hc hstop
  have hnone : (takeWhole first c).2.head?.any isDigit = false := by
    rw [Cursor.head?, hafter, Option.any_eq_false]
    intro b hb
    simp [hstop b hb]
  simp only [skipNumber, hhead, hfirst, hnone, Bool.and_false, Bool.not_true, Bool.false_eq_true, if_false]
  cases hfraction with
  | none =>
    obtain ⟨c', hskip, hc'⟩ := skipScale_complete hexponent hafter hrest
    refine ⟨c', ?_, hc'⟩
    split
    · next b hb =>
      have hpoint : (b == 0x2E) = false := (head?_of_exponent hexponent hrest (hafter ▸ hb)).2
      rw [hpoint]
      exact hskip
    · next hend =>
      rw [skipScale, hend] at hskip
      exact hskip
  | @some digits hdigits =>
    have hbytes : (takeWhole first c).2.rest = 0x2E :: (Text.utf8 (digits ++ exponent) ++ rest) := hafter
    obtain ⟨c', hskip, hc'⟩ := skipFraction_complete hdigits hexponent (Cursor.rest_eat_of_rest hbytes) hrest
    refine ⟨c', ?_, hc'⟩
    rw [Cursor.head?_of_rest hbytes]
    exact hskip

end PatternGrammar.Config
