import PatternGrammar.Proofs.Config.Cursor

/-!
# Escapes

What is read after a backslash stands for the character that is read. What is skipped there has the form of an escape,
but need not stand for a character.
-/

namespace PatternGrammar.Config

open Json (escapes FourDigits AnyEscape Escape)
open Regex (hexValue?)

/-! ## Hexadecimal digits -/

/-- The comparisons of characters are comparisons of their numbers. -/
theorem hexValue?_eq (ch : Char) :
    hexValue? ch =
      if 48 ≤ ch.toNat ∧ ch.toNat ≤ 57 then some (ch.toNat - 48)
      else if 97 ≤ ch.toNat ∧ ch.toNat ≤ 102 then some (ch.toNat - 97 + 10)
      else if 65 ≤ ch.toNat ∧ ch.toNat ≤ 70 then some (ch.toNat - 65 + 10)
      else none :=
  rfl

theorem hexDigit?_eq (b : UInt8) :
    hexDigit? b =
      if 48 ≤ b.toNat ∧ b.toNat ≤ 57 then some (b.toNat - 48)
      else if 97 ≤ b.toNat ∧ b.toNat ≤ 102 then some (b.toNat - 97 + 10)
      else if 65 ≤ b.toNat ∧ b.toNat ≤ 70 then some (b.toNat - 65 + 10)
      else none := by
  simp only [hexDigit?, hexDigit?.isIn, decide_eq_true_eq]

theorem hexDigit?_byteOf {ch : Char} (h : ch.toNat < 128) : hexDigit? (Text.byteOf ch) = hexValue? ch := by
  rw [hexDigit?_eq, Text.toNat_byteOf h, hexValue?_eq]

theorem hexValue?_charOf (b : UInt8) : hexValue? (Text.charOf b) = hexDigit? b := by
  rw [hexValue?_eq, Text.toNat_charOf, hexDigit?_eq]

theorem lt_of_hexValue? {ch : Char} {n : Nat} (h : hexValue? ch = some n) : ch.toNat < 128 := by
  rw [hexValue?_eq] at h
  by_cases hle : ch.toNat ≤ 102
  · omega
  · rw [if_neg (by omega), if_neg (by omega), if_neg (by omega)] at h
    contradiction

theorem lt_of_hexDigit? {b : UInt8} {n : Nat} (h : hexDigit? b = some n) : b.toNat < 128 := by
  rw [← hexValue?_charOf] at h
  rw [← Text.toNat_charOf]
  exact lt_of_hexValue? h

theorem foldl_hexDigit?_none (bytes : List UInt8) :
    bytes.foldl (fun n? b => n?.bind fun n => (hexDigit? b).map (n * 16 + ·)) none = none := by
  induction bytes with
  | nil => rfl
  | cons b bytes ih => exact ih

/-- Digits write a number if each of them has a value. -/
theorem foldl_hexDigit? {bytes : List UInt8} {m n : Nat} :
    bytes.foldl (fun n? b => n?.bind fun n => (hexDigit? b).map (n * 16 + ·)) (some m) = some n ↔
      ∃ values : List Nat, bytes.map hexDigit? = values.map some ∧ n = values.foldl (· * 16 + ·) m := by
  induction bytes generalizing m with
  | nil =>
    constructor
    · intro h
      exact ⟨[], rfl, (Option.some.inj h).symm⟩
    · rintro ⟨values, hvalues, rfl⟩
      rw [List.map_eq_nil_iff.mp hvalues.symm]
      rfl
  | cons b bytes ih =>
    rw [List.foldl_cons, Option.bind_some]
    cases hb : hexDigit? b with
    | none =>
      constructor
      · intro h
        rw [Option.map_none, foldl_hexDigit?_none] at h
        contradiction
      · rintro ⟨values, hvalues, -⟩
        rw [List.map_cons, hb] at hvalues
        cases values <;> simp at hvalues
    | some v =>
      rw [Option.map_some, ih, List.map_cons, hb]
      constructor
      · rintro ⟨values, hvalues, rfl⟩
        exact ⟨v :: values, by rw [hvalues, List.map_cons], rfl⟩
      · rintro ⟨values, hvalues, rfl⟩
        cases values with
        | nil => contradiction
        | cons v' values =>
          rw [List.map_cons] at hvalues
          obtain ⟨hv, htail⟩ := List.cons.inj hvalues
          obtain rfl := Option.some.inj hv
          exact ⟨values, htail, rfl⟩

/-- As many values as digits, and one for each of them. -/
theorem values_of_map_eq {α β : Type} {value? : α → Option β} {digits : List α} {values : List β}
    (h : digits.map value? = values.map some) :
    digits.length = values.length ∧ ∀ d ∈ digits, ∃ v, value? d = some v := by
  constructor
  · rw [← List.length_map (f := value?), h, List.length_map]
  · intro d hd
    have hmem : value? d ∈ values.map some := h ▸ List.mem_map_of_mem hd
    obtain ⟨v, -, hv⟩ := List.mem_map.mp hmem
    exact ⟨v, hv.symm⟩

/-- Where four digits are read they stand there and write the number. -/
theorem readFourDigits_sound {c c' : Cursor} {n : Nat} (h : readFourDigits c = .ok (n, c')) :
    ∃ digits, FourDigits n digits ∧ c.rest = Text.utf8 digits ++ c'.rest := by
  unfold readFourDigits at h
  split at h
  · contradiction
  next hlength =>
  split at h
  · contradiction
  next m hm =>
  obtain ⟨rfl, rfl⟩ := Prod.mk.inj (Except.ok.inj h)
  obtain ⟨values, hvalues, hn⟩ := foldl_hexDigit?.mp hm
  obtain ⟨hcount, hdigit⟩ := values_of_map_eq hvalues
  have hsmall : ∀ b ∈ c.rest.take 4, b.toNat < 128 := by
    intro b hb
    obtain ⟨v, hv⟩ := hdigit b hb
    exact lt_of_hexDigit? hv
  have hfour : values.length = 4 := by
    rw [← hcount, List.length_take]
    omega
  refine ⟨(c.rest.take 4).map Text.charOf, ⟨values, hfour, ?_, hn⟩, ?_⟩
  · rw [List.map_map, ← hvalues]
    exact List.map_congr_left fun b _ => hexValue?_charOf b
  · rw [Text.utf8_map_charOf hsmall, Cursor.rest_eatMany, List.take_append_drop]

/-- Four digits in front of the cursor are read as their number. -/
theorem readFourDigits_complete {c : Cursor} {n : Nat} {digits : Text} {rest : List UInt8}
    (hdigits : FourDigits n digits) (hc : c.rest = Text.utf8 digits ++ rest) :
    ∃ c', readFourDigits c = .ok (n, c') ∧ c'.rest = rest := by
  obtain ⟨values, hfour, hvalues, hn⟩ := hdigits
  obtain ⟨hcount, hdigit⟩ := values_of_map_eq hvalues
  have hsmall : ∀ ch ∈ digits, ch.toNat < 128 := by
    intro ch hch
    obtain ⟨v, hv⟩ := hdigit ch hch
    exact lt_of_hexValue? hv
  have hnumber : fourDigits? (digits.map Text.byteOf) = some n := by
    refine foldl_hexDigit?.mpr ⟨values, ?_, hn⟩
    rw [List.map_map, ← hvalues]
    exact List.map_congr_left fun ch hch => hexDigit?_byteOf (hsmall ch hch)
  have hlength : (digits.map Text.byteOf).length = 4 := by rw [List.length_map, hcount, hfour]
  rw [Text.utf8_small hsmall] at hc
  have hlong : ¬ c.rest.length < 4 := by
    rw [hc, List.length_append]
    omega
  refine ⟨c.eatMany 4, ?_, ?_⟩
  · rw [readFourDigits, if_neg hlong, hc, List.take_left' hlength, hnumber]
  · rw [Cursor.rest_eatMany, hc, List.drop_left' hlength]

/-! ## What follows a backslash -/

/-- What a letter behind a backslash is read as is what it stands for. -/
theorem plainEscape?_sound {b : UInt8} {ch : Char} (h : plainEscape? b = some ch) :
    (Text.charOf b, ch) ∈ escapes ∧ Text.utf8 [Text.charOf b] = [b] := by
  unfold plainEscape? at h
  repeat' split at h
  all_goals
    first
    | contradiction
    | next hb =>
        rw [← Option.some.inj h, eq_of_beq hb]
        decide

/-- A letter of the format is read as what it stands for. -/
theorem plainEscape?_complete {letter ch : Char} (h : (letter, ch) ∈ escapes) :
    letter.toNat < 128 ∧ (Text.byteOf letter == 0x75) = false ∧ plainEscape? (Text.byteOf letter) = some ch := by
  simp only [escapes, List.mem_cons, List.not_mem_nil, or_false, Prod.mk.injEq] at h
  obtain ⟨rfl, rfl⟩ | ⟨rfl, rfl⟩ | ⟨rfl, rfl⟩ | ⟨rfl, rfl⟩ | ⟨rfl, rfl⟩ | ⟨rfl, rfl⟩ | ⟨rfl, rfl⟩ | ⟨rfl, rfl⟩ := h <;>
    decide

theorem readPairByte_sound {b : UInt8} {c c' : Cursor} (h : readPairByte b c = .ok c') : c.rest = b :: c'.rest := by
  unfold readPairByte at h
  split at h
  · contradiction
  next d hd =>
  split at h
  · next heq =>
    obtain rfl : d = b := eq_of_beq heq
    obtain rfl := Except.ok.inj h
    exact Cursor.rest_eq_of_head? hd
  · contradiction

theorem readPairByte_complete {b : UInt8} {c : Cursor} {rest : List UInt8} (hc : c.rest = b :: rest) :
    readPairByte b c = .ok c.eat := by
  simp only [readPairByte, Cursor.head?_of_rest hc, beq_self_eq_true, if_true]

/-- Where a numbered escape is read, or a pair of them, it stands there for the character. -/
theorem readNumberedChar_sound {c c' : Cursor} {ch : Char} (h : readNumberedChar c = .ok (ch, c')) :
    ∃ e, Escape ch ('u' :: e) ∧ c.rest = Text.utf8 e ++ c'.rest := by
  unfold readNumberedChar at h
  obtain ⟨⟨n, c1⟩, hfirst, h⟩ := exists_of_bind_eq_ok h
  obtain ⟨digits, hdigits, hpiece⟩ := readFourDigits_sound hfirst
  dsimp only at h
  split at h
  · contradiction
  next htrailing =>
  split at h
  · -- a number that is no surrogate
    next hleading =>
    obtain ⟨rfl, rfl⟩ := Prod.mk.inj (Except.ok.inj h)
    refine ⟨digits, .numbered hdigits ?_, hpiece⟩
    simp only [isTrailing, isLeading, decide_eq_true_eq, Bool.not_eq_true',
      decide_eq_false_iff_not] at htrailing hleading
    omega
  next hleading =>
  -- a leading surrogate, which has to be one half of a pair
  obtain ⟨c2, hbackslash, h⟩ := exists_of_bind_eq_ok h
  obtain ⟨c3, hu, h⟩ := exists_of_bind_eq_ok h
  obtain ⟨⟨m, c4⟩, hsecond, h⟩ := exists_of_bind_eq_ok h
  obtain ⟨digits', hdigits', hpiece'⟩ := readFourDigits_sound hsecond
  dsimp only at h
  split at h
  · next htrailing' =>
    obtain ⟨rfl, rfl⟩ := Prod.mk.inj (Except.ok.inj h)
    simp only [isTrailing, isLeading, decide_eq_true_eq, Bool.not_eq_true', decide_eq_false_iff_not,
      Decidable.not_not] at htrailing' hleading
    refine ⟨digits ++ '\\' :: 'u' :: digits', .pair hdigits hdigits' (by omega) (by omega) (by omega) (by omega), ?_⟩
    have hmarks : c1.rest = Text.utf8 ['\\', 'u'] ++ c3.rest := by
      rw [readPairByte_sound hbackslash, readPairByte_sound hu]
      rfl
    exact pieces_append hpiece (pieces_append hmarks hpiece')
  · contradiction

/-- A numbered escape for a character is read, alone or as a pair of surrogates. -/
theorem readNumberedChar_complete {c : Cursor} {ch : Char} {e : Text} {rest : List UInt8} (he : Escape ch ('u' :: e))
    (hc : c.rest = Text.utf8 e ++ rest) : ∃ c', readNumberedChar c = .ok (ch, c') ∧ c'.rest = rest := by
  cases he with
  | letter hletter => exact absurd hletter (by simp [escapes])
  | @numbered n digits hdigits hsurrogate =>
    obtain ⟨c1, hfirst, hc1⟩ := readFourDigits_complete hdigits hc
    refine ⟨c1, ?_, hc1⟩
    have htrailing : isTrailing n = false := decide_eq_false (by omega)
    have hleading : isLeading n = false := decide_eq_false (by omega)
    rw [readNumberedChar, hfirst, bind_ok]
    simp only [htrailing, hleading]
    rfl
  | @pair n m digits digits' hdigits hdigits' hn hn' hm hm' =>
    rw [Text.utf8_append, List.append_assoc] at hc
    obtain ⟨c1, hfirst, hc1⟩ := readFourDigits_complete hdigits hc
    have hmarks : c1.rest = 0x5C :: 0x75 :: (Text.utf8 digits' ++ rest) := hc1
    have hu := Cursor.rest_eat_of_rest hmarks
    obtain ⟨c2, hsecond, hc2⟩ := readFourDigits_complete hdigits' (Cursor.rest_eat_of_rest hu)
    refine ⟨c2, ?_, hc2⟩
    have htrailing : isTrailing n = false := decide_eq_false (by omega)
    have hleading : isLeading n = true := decide_eq_true ⟨hn, hn'⟩
    have htrailing' : isTrailing m = true := decide_eq_true ⟨hm, hm'⟩
    rw [readNumberedChar, hfirst, bind_ok]
    simp only [htrailing, hleading, Bool.not_true, Bool.false_eq_true, if_false]
    rw [readPairByte_complete hmarks, bind_ok, readPairByte_complete hu, bind_ok, hsecond, bind_ok]
    simp only [htrailing', if_true]
    rfl

/-- What has been read after a backslash stands for the character that was read. -/
theorem readEscape_sound {c c' : Cursor} {ch : Char} (h : readEscape c = .ok (ch, c')) :
    ∃ e, Escape ch e ∧ c.rest = Text.utf8 e ++ c'.rest := by
  unfold readEscape at h
  split at h
  · contradiction
  next b hb =>
  have hrest := Cursor.rest_eq_of_head? hb
  split at h
  · next hu =>
    obtain rfl : b = 0x75 := eq_of_beq hu
    obtain ⟨e, he, hpiece⟩ := readNumberedChar_sound h
    exact ⟨'u' :: e, he, pieces_append (p := ['u']) hrest hpiece⟩
  split at h
  · next ch' hch =>
    obtain ⟨rfl, rfl⟩ := Prod.mk.inj (Except.ok.inj h)
    obtain ⟨hmem, hbyte⟩ := plainEscape?_sound hch
    refine ⟨[Text.charOf b], .letter hmem, ?_⟩
    rw [hbyte]
    exact hrest
  · contradiction

/-- An escape that stands for a character is read as that character. -/
theorem readEscape_complete {c : Cursor} {ch : Char} {e : Text} {rest : List UInt8} (he : Escape ch e)
    (hc : c.rest = Text.utf8 e ++ rest) : ∃ c', readEscape c = .ok (ch, c') ∧ c'.rest = rest := by
  have hnumbered : ∀ e', Escape ch ('u' :: e') → c.rest = Text.utf8 ('u' :: e') ++ rest →
      ∃ c', readEscape c = .ok (ch, c') ∧ c'.rest = rest := by
    intro e' he' hc'
    have hbytes : c.rest = 0x75 :: (Text.utf8 e' ++ rest) := hc'
    obtain ⟨c', hread, hc''⟩ := readNumberedChar_complete he' (Cursor.rest_eat_of_rest hbytes)
    refine ⟨c', ?_, hc''⟩
    simp only [readEscape, Cursor.head?_of_rest hbytes, beq_self_eq_true, if_true]
    exact hread
  cases he with
  | @letter letter _ hletter =>
    obtain ⟨hsmall, hu, hplain⟩ := plainEscape?_complete hletter
    rw [Text.utf8_cons, Text.encode_small hsmall] at hc
    refine ⟨c.eat, ?_, Cursor.rest_eat_of_rest hc⟩
    simp only [readEscape, Cursor.head?_of_rest hc, hu, hplain]
    rfl
  | numbered hdigits hsurrogate => exact hnumbered _ (.numbered hdigits hsurrogate) hc
  | pair hdigits hdigits' hn hn' hm hm' => exact hnumbered _ (.pair hdigits hdigits' hn hn' hm hm') hc

/-- What is skipped behind a backslash has the form of an escape. -/
theorem skipEscape_sound {c c' : Cursor} (h : skipEscape c = .ok c') :
    ∃ e, AnyEscape e ∧ c.rest = Text.utf8 e ++ c'.rest := by
  unfold skipEscape at h
  split at h
  · contradiction
  next b hb =>
  have hrest := Cursor.rest_eq_of_head? hb
  split at h
  · next hu =>
    obtain rfl : b = 0x75 := eq_of_beq hu
    cases hread : readFourDigits c.eat with
    | error e =>
      rw [hread] at h
      contradiction
    | ok x =>
      rw [hread] at h
      obtain rfl : x.2 = c' := Except.ok.inj h
      obtain ⟨digits, hdigits, hpiece⟩ := readFourDigits_sound hread
      exact ⟨'u' :: digits, .numbered hdigits, pieces_append (p := ['u']) hrest hpiece⟩
  split at h
  · next hsome =>
    obtain ⟨ch, hch⟩ := Option.isSome_iff_exists.mp hsome
    obtain rfl := Except.ok.inj h
    obtain ⟨hmem, hbyte⟩ := plainEscape?_sound hch
    refine ⟨[Text.charOf b], .letter hmem, ?_⟩
    rw [hbyte]
    exact hrest
  · contradiction

/-- All that has the form of an escape is skipped, whether or not it stands for a character. -/
theorem skipEscape_complete {c : Cursor} {e : Text} {rest : List UInt8} (he : AnyEscape e)
    (hc : c.rest = Text.utf8 e ++ rest) : ∃ c', skipEscape c = .ok c' ∧ c'.rest = rest := by
  cases he with
  | @letter letter ch hletter =>
    obtain ⟨hsmall, hu, hplain⟩ := plainEscape?_complete hletter
    rw [Text.utf8_cons, Text.encode_small hsmall] at hc
    refine ⟨c.eat, ?_, Cursor.rest_eat_of_rest hc⟩
    simp only [skipEscape, Cursor.head?_of_rest hc, hu, hplain]
    rfl
  | @numbered n digits hdigits =>
    have hbytes : c.rest = 0x75 :: (Text.utf8 digits ++ rest) := hc
    obtain ⟨c', hread, hc'⟩ := readFourDigits_complete hdigits (Cursor.rest_eat_of_rest hbytes)
    refine ⟨c', ?_, hc'⟩
    simp only [skipEscape, Cursor.head?_of_rest hbytes, beq_self_eq_true, if_true, hread]
    rfl

end PatternGrammar.Config
