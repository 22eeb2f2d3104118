import PatternGrammar.Proofs.Config.Number

/-!
# Integers

An integer below `2 ^ 64` is read off its decimal digits only: a sign, a fraction, an exponent or a digit too many makes
it a number of another kind.
-/

namespace PatternGrammar.Config

open Json (Digits Whole)

/-! ## Digits and their number -/

theorem toDigits_of_isDigit {ch : Char} (h : ch.isDigit) : Nat.toDigits 10 (ch.toNat - '0'.toNat) = [ch] := by
  have hbounds := isDigit_iff.mp h
  have hzero : '0'.toNat = 48 := rfl
  have hchar : Nat.digitChar (ch.toNat - '0'.toNat) = ch := by
    apply Char.toNat_inj.mp
    rw [Nat.toNat_digitChar_of_lt_ten (by omega)]
    omega
  rw [Nat.toDigits_of_lt_base (by omega), hchar]

/-- Digits that are read behind a number other than zero are written behind it. -/
theorem toDigits_ofDigitChars {digits : Text} (hdigits : ∀ ch ∈ digits, ch.isDigit) {n : Nat} (hn : 0 < n) :
    Nat.toDigits 10 (Nat.ofDigitChars 10 digits n) = Nat.toDigits 10 n ++ digits := by
  induction digits generalizing n with
  | nil => rw [Nat.ofDigitChars_nil, List.append_nil]
  | cons ch digits ih =>
    have hch : ch.isDigit := hdigits ch List.mem_cons_self
    have hbounds := isDigit_iff.mp hch
    have hzero : '0'.toNat = 48 := rfl
    rw [Nat.ofDigitChars_cons, ih (fun d hd => hdigits d (List.mem_cons_of_mem _ hd)) (by omega),
      ← Nat.toDigits_append_toDigits (by decide) hn (by omega), toDigits_of_isDigit hch, List.append_assoc,
      List.singleton_append]

/-- Digits without a leading zero are those of their number. -/
theorem toDigits_of_whole {digits : Text} (h : Whole digits) :
    Nat.toDigits 10 (Nat.ofDigitChars 10 digits 0) = digits := by
  obtain ⟨⟨hne, hall⟩, hzero⟩ := h
  cases digits with
  | nil => exact absurd rfl hne
  | cons ch digits =>
    by_cases h0 : ch = '0'
    · subst h0
      obtain rfl : digits = [] := (List.cons.inj (hzero rfl)).2
      rfl
    · have hch : ch.isDigit := hall ch List.mem_cons_self
      have hbounds := isDigit_iff.mp hch
      have hne48 : ch.toNat ≠ 48 := fun h => h0 (Char.toNat_inj.mp h)
      have hz : '0'.toNat = 48 := rfl
      rw [Nat.ofDigitChars_cons, toDigits_ofDigitChars (fun d hd => hall d (List.mem_cons_of_mem _ hd)) (by omega),
        Nat.mul_zero, Nat.zero_add, toDigits_of_isDigit hch, List.singleton_append]

theorem head?_toDigits (n : Nat) (h : (Nat.toDigits 10 n).head? = some '0') : n = 0 := by
  induction n using Nat.strongRecOn with
  | ind n ih =>
    by_cases hlt : n < 10
    · rw [Nat.toDigits_of_lt_base hlt] at h
      exact Nat.digitChar_eq_zero.mp (Option.some.inj h)
    · -- the first digit is that of the quotient, which is smaller
      have hhead : (Nat.toDigits 10 (n / 10)).head? = some '0' := by
        rw [Nat.toDigits_of_base_le (by decide) (by omega)] at h
        cases hquot : Nat.toDigits 10 (n / 10) with
        | nil => exact absurd hquot Nat.toDigits_ne_nil
        | cons d digits =>
          rw [hquot] at h
          exact h
      have hquot := ih (n / 10) (by omega) hhead
      omega

/-- A number in its shortest form has no zero in front. -/
theorem whole_toDigits (n : Nat) : Whole (Nat.toDigits 10 n) := by
  refine ⟨⟨Nat.toDigits_ne_nil, fun ch hch => Nat.isDigit_of_mem_toDigits (by decide) (by decide) hch⟩, fun h => ?_⟩
  rw [head?_toDigits n h]
  rfl

/-- The digits of a number are a value. -/
theorem scalar_toDigits (n : Nat) : Json.Scalar (Nat.toDigits 10 n) := by
  have hunsigned : Json.Unsigned (Nat.toDigits 10 n ++ [] ++ []) := .mk (whole_toDigits n) .none .none
  rw [List.append_nil, List.append_nil] at hunsigned
  exact .number (.positive hunsigned)

theorem le_ofDigitChars (digits : Text) (n : Nat) : n ≤ Nat.ofDigitChars 10 digits n := by
  induction digits generalizing n with
  | nil => exact Nat.le_refl n
  | cons ch digits ih =>
    rw [Nat.ofDigitChars_cons]
    have hle := ih (10 * n + (ch.toNat - '0'.toNat))
    omega

/-! ## Digits taken one by one -/

/-- A digit is put behind the number unless that makes the number too large. -/
theorem absorb_cons {ch : Char} (hch : ch.isDigit) (most n : Nat) (digits : Text) :
    absorb most n (Text.utf8 (ch :: digits)) =
      if 10 * n + (ch.toNat - '0'.toNat) > most then (n, Text.utf8 (ch :: digits))
      else absorb most (10 * n + (ch.toNat - '0'.toNat)) (Text.utf8 digits) := by
  have hsmall := (isDigit_char hch).1
  rw [Text.utf8_cons, Text.encode_small hsmall, List.singleton_append, absorb, Text.toNat_byteOf hsmall, Nat.mul_comm]
  rfl

/-- All digits fit if and only if their number does. -/
theorem absorb_complete {digits : Text} (hdigits : ∀ ch ∈ digits, ch.isDigit) {most n : Nat}
    (h : Nat.ofDigitChars 10 digits n ≤ most) :
    absorb most n (Text.utf8 digits) = (Nat.ofDigitChars 10 digits n, []) := by
  induction digits generalizing n with
  | nil => rfl
  | cons ch digits ih =>
    rw [Nat.ofDigitChars_cons] at h ⊢
    have hle := le_ofDigitChars digits (10 * n + (ch.toNat - '0'.toNat))
    rw [absorb_cons (hdigits ch List.mem_cons_self), if_neg (by omega)]
    exact ih (fun d hd => hdigits d (List.mem_cons_of_mem _ hd)) h

/-- Where all digits fit, the number is the one they write. -/
theorem absorb_sound {digits : Text} (hdigits : ∀ ch ∈ digits, ch.isDigit) {most n m : Nat} (hn : n ≤ most)
    (h : absorb most n (Text.utf8 digits) = (m, [])) : m = Nat.ofDigitChars 10 digits n ∧ m ≤ most := by
  induction digits generalizing n with
  | nil =>
    obtain rfl : n = m := (Prod.mk.inj h).1
    exact ⟨rfl, hn⟩
  | cons ch digits ih =>
    rw [absorb_cons (hdigits ch List.mem_cons_self)] at h
    split at h
    · have hnil := Text.utf8_eq_nil.mp (Prod.mk.inj h).2
      contradiction
    · next hle =>
      rw [Nat.ofDigitChars_cons]
      exact ih (fun d hd => hdigits d (List.mem_cons_of_mem _ hd)) (by omega) h

/-! ## Floating-point numbers -/

/-- What is put together of a significand and an exponent is never an integer. -/
theorem floatNumber_ok {negative : Bool} {significand : Nat} {exponent : Int} {c c' : Cursor} {n : Number}
    (h : floatNumber negative significand exponent c = .ok (n, c')) : ∃ text, n = .floating text := by
  unfold floatNumber at h
  split at h
  · contradiction
  · exact ⟨_, (Prod.mk.inj (Except.ok.inj h)).1.symm⟩

theorem readExponent_ok {negative : Bool} {significand : Nat} {start : Int} {c c' : Cursor} {n : Number}
    (h : readExponent negative significand start c = .ok (n, c')) : ∃ text, n = .floating text := by
  simp only [readExponent] at h
  split at h
  · contradiction
  split at h
  · contradiction
  split at h
  · exact floatNumber_ok h
  split at h
  · contradiction
  · exact ⟨_, (Prod.mk.inj (Except.ok.inj h)).1.symm⟩

theorem readScale_ok {negative : Bool} {significand : Nat} {exponent : Int} {c c' : Cursor} {n : Number}
    (h : readScale negative significand exponent c = .ok (n, c')) : ∃ text, n = .floating text := by
  unfold readScale at h
  split at h
  · split at h
    · exact readExponent_ok h
    · exact floatNumber_ok h
  · exact floatNumber_ok h

theorem readFraction_ok {negative : Bool} {significand : Nat} {exponent : Int} {c c' : Cursor} {n : Number}
    (h : readFraction negative significand exponent c = .ok (n, c')) : ∃ text, n = .floating text := by
  simp only [readFraction] at h
  split at h
  · split at h <;> contradiction
  · exact readScale_ok h

theorem integer_eq_unsigned {negative : Bool} {n m : Nat} (h : integer negative n = .unsigned m) :
    negative = false ∧ n = m := by
  cases negative with
  | false => exact ⟨rfl, Number.unsigned.inj h⟩
  | true =>
    simp only [integer, Bool.not_true, Bool.false_eq_true, if_false] at h
    split at h <;> contradiction

/-! ## Integers -/

/-- Where no digit is dropped, the integer that is read is the one with these digits. -/
theorem integer_sound {negative : Bool} {whole : Text} {n : Nat} (hwhole : Whole whole)
    (hempty : (absorb maxInteger 0 (Text.utf8 whole)).2.isEmpty = true)
    (h : integer negative (absorb maxInteger 0 (Text.utf8 whole)).1 = .unsigned n) :
    negative = false ∧ n ≤ maxInteger ∧ Nat.toDigits 10 n = whole := by
  obtain ⟨hpositive, hn⟩ := integer_eq_unsigned h
  have habsorb : absorb maxInteger 0 (Text.utf8 whole) = (n, []) := by
    rw [← hn, ← List.isEmpty_iff.mp hempty]
  obtain ⟨hvalue, hle⟩ := absorb_sound hwhole.1.2 (Nat.zero_le _) habsorb
  refine ⟨hpositive, hle, ?_⟩
  rw [hvalue, toDigits_of_whole hwhole]

/-- An integer below `2 ^ 64` has been read off its digits. -/
theorem readNumber_sound {negative : Bool} {c c' : Cursor} {n : Nat}
    (h : readNumber negative c = .ok (.unsigned n, c')) :
    negative = false ∧ n ≤ maxInteger ∧ c.rest = Text.utf8 (Nat.toDigits 10 n) ++ c'.rest := by
  have hfloat : ¬ ∃ text, Number.unsigned n = .floating text := fun ⟨_, htext⟩ => Number.noConfusion htext
  simp only [readNumber] at h
  split at h
  · contradiction
  next first hhead =>
  split at h
  · contradiction
  next hfirst =>
  split at h
  · contradiction
  next hlead =>
  obtain ⟨whole, hwhole, htaken, hpiece⟩ := takeWhole_sound hhead (by simpa using hfirst) (by simpa using hlead)
  rw [htaken] at h
  -- what goes on with a point or an exponent, or has too many digits, is not read as an integer
  split at h
  · split at h
    · exact absurd (readFraction_ok h) hfloat
    split at h
    · exact absurd (readExponent_ok h) hfloat
    split at h
    · next hempty =>
      obtain ⟨hinteger, rfl⟩ := Prod.mk.inj (Except.ok.inj h)
      obtain ⟨hpositive, hle, rfl⟩ := integer_sound hwhole hempty hinteger
      exact ⟨hpositive, hle, hpiece⟩
    · exact absurd (floatNumber_ok h) hfloat
  · split at h
    · next hempty =>
      obtain ⟨hinteger, rfl⟩ := Prod.mk.inj (Except.ok.inj h)
      obtain ⟨hpositive, hle, rfl⟩ := integer_sound hwhole hempty hinteger
      exact ⟨hpositive, hle, hpiece⟩
    · exact absurd (floatNumber_ok h) hfloat

/-- Digits of a number that fits are read as an integer, unless a fraction or an exponent follows. -/
theorem readNumber_complete {c : Cursor} {n : Nat} {rest : List UInt8} (hn : n ≤ maxInteger)
    (hc : c.rest = Text.utf8 (Nat.toDigits 10 n) ++ rest) (hrest : NumberEnds rest) :
    ∃ c', readNumber false c = .ok (.unsigned n, c') ∧ c'.rest = rest := by
  have hwhole := whole_toDigits n
  obtain ⟨first, hhead, hfirst, htaken, hafter⟩ := takeWhole_complete hwhole hc fun b hb => (hrest b hb).1
  have hnone : (takeWhole first c).2.head?.any isDigit = false := by
    rw [Cursor.head?, hafter, Option.any_eq_false]
    intro b hb
    simp [(hrest b hb).1]
  have habsorb : absorb maxInteger 0 (takeWhole first c).1 = (n, []) := by
    have hvalue : Nat.ofDigitChars 10 (Nat.toDigits 10 n) 0 = n := Nat.ofDigitChars_ten_toDigits
    rw [htaken, absorb_complete hwhole.1.2 (by rw [hvalue]; exact hn), hvalue]
  refine ⟨(takeWhole first c).2, ?_, hafter⟩
  simp only [readNumber, hhead, hfirst, hnone, habsorb, Bool.and_false, Bool.not_true, Bool.false_eq_true, if_false]
  split
  · next b hb =>
    have hends := hrest b (hafter ▸ hb)
    simp only [hends, Bool.false_eq_true, if_false, List.isEmpty_nil, if_true]
    rfl
  · rfl

end PatternGrammar.Config
