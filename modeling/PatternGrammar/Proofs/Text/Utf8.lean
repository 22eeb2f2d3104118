import PatternGrammar.Text.Utf8

/-!
# Characters and their bytes

The first character of some bytes is read back from its encoding, so a text is determined by its bytes, also piece by
piece. Characters below 128 are one byte below 128, and all bytes of the others are at least 128.
-/

namespace PatternGrammar.Text

@[simp] theorem utf8_nil : utf8 [] = [] := rfl

theorem utf8_cons (ch : Char) (t : Text) : utf8 (ch :: t) = String.utf8EncodeChar ch ++ utf8 t := rfl

theorem utf8_append (s t : Text) : utf8 (s ++ t) = utf8 s ++ utf8 t :=
  List.flatMap_append

/-! ## The first character -/

theorem toNat_ofNat_byte {n : Nat} (h : n < 256) : (UInt8.ofNat n).toNat = n :=
  UInt8.toNat_ofNat_of_lt' h

theorem charAtLeast?_eq (ch : Char) {least n : Nat} (hn : n = ch.toNat) (h : least ≤ n) :
    charAtLeast? least n = some ch := by
  subst hn
  have hvalid : ch.toNat.isValidChar := ch.valid
  rw [charAtLeast?, dif_pos ⟨h, hvalid⟩]
  rfl

theorem continuation?_ofNat {n : Nat} (h : n < 64) : continuation? (UInt8.ofNat (n + 128)) = some n := by
  rw [continuation?, toNat_ofNat_byte (by omega), if_pos (by omega)]
  simp

section Lengths

variable {lead second third fourth : UInt8} {a b c d : Nat} (rest : List UInt8)

theorem firstChar?_one (hlead : lead.toNat = a) (ha : a < 128) :
    firstChar? (lead :: rest) = (charAtLeast? 0 a).map (·, 1) := by
  simp only [firstChar?, hlead]
  rw [if_pos ha]

theorem firstChar?_two (hlead : lead.toNat = a + 192) (ha : a < 32) (hb : continuation? second = some b) :
    firstChar? (lead :: second :: rest) = (charAtLeast? 128 (a * 64 + b)).map (·, 2) := by
  simp only [firstChar?, hlead, hb]
  rw [if_neg (by omega), if_pos (by omega), Nat.add_sub_cancel]

theorem firstChar?_three (hlead : lead.toNat = a + 224) (ha : a < 16) (hb : continuation? second = some b)
    (hc : continuation? third = some c) :
    firstChar? (lead :: second :: third :: rest) = (charAtLeast? 2048 ((a * 64 + b) * 64 + c)).map (·, 3) := by
  simp only [firstChar?, hlead, hb, hc]
  rw [if_neg (by omega), if_neg (by omega), if_pos (by omega), Nat.add_sub_cancel]

theorem firstChar?_four (hlead : lead.toNat = a + 240) (ha : a < 8) (hb : continuation? second = some b)
    (hc : continuation? third = some c) (hd : continuation? fourth = some d) :
    firstChar? (lead :: second :: third :: fourth :: rest) =
      (charAtLeast? 65536 (((a * 64 + b) * 64 + c) * 64 + d)).map (·, 4) := by
  simp only [firstChar?, hlead, hb, hc, hd]
  rw [if_neg (by omega), if_neg (by omega), if_neg (by omega), if_pos (by omega), Nat.add_sub_cancel]

end Lengths

/-- The encoding by ranges of the number. -/
theorem encode_eq (ch : Char) :
    String.utf8EncodeChar ch =
      if ch.toNat ≤ 127 then [UInt8.ofNat ch.toNat]
      else if ch.toNat ≤ 2047 then [UInt8.ofNat (ch.toNat / 64 % 32 + 192), UInt8.ofNat (ch.toNat % 64 + 128)]
      else if ch.toNat ≤ 65535 then
        [UInt8.ofNat (ch.toNat / 4096 % 16 + 224), UInt8.ofNat (ch.toNat / 64 % 64 + 128),
          UInt8.ofNat (ch.toNat % 64 + 128)]
      else
        [UInt8.ofNat (ch.toNat / 262144 % 8 + 240), UInt8.ofNat (ch.toNat / 4096 % 64 + 128),
          UInt8.ofNat (ch.toNat / 64 % 64 + 128), UInt8.ofNat (ch.toNat % 64 + 128)] :=
  String.utf8EncodeChar.eq_1 ch

theorem utf8Size_eq (ch : Char) :
    ch.utf8Size = if ch.toNat ≤ 127 then 1 else if ch.toNat ≤ 2047 then 2 else if ch.toNat ≤ 65535 then 3 else 4 :=
  rfl

/-- The encoding of a character is read back, whatever comes after it. -/
theorem firstChar?_encode (ch : Char) (rest : List UInt8) :
    firstChar? (String.utf8EncodeChar ch ++ rest) = some (ch, ch.utf8Size) := by
  have hlt : ch.toNat < 0x110000 := by
    have hvalid : ch.toNat.isValidChar := ch.valid
    simp only [Nat.isValidChar] at hvalid
    omega
  have hcont : ∀ n, continuation? (UInt8.ofNat (n % 64 + 128)) = some (n % 64) :=
    fun n => continuation?_ofNat (Nat.mod_lt n (by decide))
  rw [encode_eq, utf8Size_eq]
  by_cases h1 : ch.toNat ≤ 127
  · rw [if_pos h1, if_pos h1, List.singleton_append, firstChar?_one _ (toNat_ofNat_byte (by omega)) (by omega),
      charAtLeast?_eq ch rfl (Nat.zero_le _)]
    rfl
  rw [if_neg h1, if_neg h1]
  by_cases h2 : ch.toNat ≤ 2047
  · rw [if_pos h2, if_pos h2, List.cons_append, List.singleton_append,
      firstChar?_two _ (toNat_ofNat_byte (by omega)) (by omega) (hcont _),
      charAtLeast?_eq ch (by omega) (by omega)]
    rfl
  rw [if_neg h2, if_neg h2]
  by_cases h3 : ch.toNat ≤ 65535
  · rw [if_pos h3, if_pos h3, List.cons_append, List.cons_append, List.singleton_append,
      firstChar?_three _ (toNat_ofNat_byte (by omega)) (by omega) (hcont _) (hcont _),
      charAtLeast?_eq ch (by omega) (by omega)]
    rfl
  · rw [if_neg h3, if_neg h3, List.cons_append, List.cons_append, List.cons_append, List.singleton_append,
      firstChar?_four _ (toNat_ofNat_byte (by omega)) (by omega) (hcont _) (hcont _) (hcont _),
      charAtLeast?_eq ch (by omega) (by omega)]
    rfl

/-- A text that begins, as bytes, with a piece, begins with it as characters. -/
theorem utf8_eq_append {t piece : Text} {rest : List UInt8} (h : utf8 t = utf8 piece ++ rest) :
    ∃ after, t = piece ++ after ∧ rest = utf8 after := by
  induction piece generalizing t with
  | nil => exact ⟨t, rfl, h.symm⟩
  | cons ch piece ih =>
    rw [utf8_cons, List.append_assoc] at h
    cases t with
    | nil =>
      exact absurd (List.append_eq_nil_iff.mp h.symm).1 String.utf8EncodeChar_ne_nil
    | cons first t =>
      rw [utf8_cons] at h
      -- Both sides begin with a whole character, so it is the same one.
      have hfirst : first = ch := by
        have hread := firstChar?_encode first (utf8 t)
        rw [h, firstChar?_encode] at hread
        exact (congrArg Prod.fst (Option.some.inj hread)).symm
      subst hfirst
      obtain ⟨after, rfl, hrest⟩ := ih (List.append_cancel_left h)
      exact ⟨after, rfl, hrest⟩

theorem utf8_eq_nil {t : Text} : utf8 t = [] ↔ t = [] := by
  cases t with
  | nil => simp
  | cons ch t =>
    rw [utf8_cons, List.append_eq_nil_iff]
    simp [String.utf8EncodeChar_ne_nil]

/-- A text is known by its bytes. -/
theorem utf8_injective {s t : Text} (h : utf8 s = utf8 t) : s = t := by
  have happend : utf8 s = utf8 t ++ [] := by rw [h, List.append_nil]
  obtain ⟨after, hs, hafter⟩ := utf8_eq_append happend
  rw [hs, utf8_eq_nil.mp hafter.symm, List.append_nil]

/-! ## Small characters -/

def byteOf (ch : Char) : UInt8 :=
  UInt8.ofNat ch.toNat

def charOf (b : UInt8) : Char :=
  Char.ofNat b.toNat

theorem encode_small {ch : Char} (h : ch.toNat < 128) : String.utf8EncodeChar ch = [byteOf ch] := by
  rw [encode_eq, if_pos (by omega)]
  rfl

theorem toNat_byteOf {ch : Char} (h : ch.toNat < 128) : (byteOf ch).toNat = ch.toNat :=
  toNat_ofNat_byte (by omega)

theorem toNat_charOf (b : UInt8) : (charOf b).toNat = b.toNat := by
  have hlt : b.toNat < 256 := b.toNat_lt
  have hvalid : b.toNat.isValidChar := Or.inl (by omega)
  rw [charOf, Char.ofNat, dif_pos hvalid]
  rfl

theorem byteOf_charOf (b : UInt8) : byteOf (charOf b) = b := by
  rw [byteOf, toNat_charOf, UInt8.ofNat_toNat]

/-- Small bytes are the encoding of as many characters. -/
theorem utf8_map_charOf {bytes : List UInt8} (h : ∀ b ∈ bytes, b.toNat < 128) : utf8 (bytes.map charOf) = bytes := by
  induction bytes with
  | nil => rfl
  | cons b bytes ih =>
    have hb : b.toNat < 128 := h b List.mem_cons_self
    have hrest : utf8 (bytes.map charOf) = bytes := ih fun b hb => h b (List.mem_cons_of_mem _ hb)
    have hsmall : (charOf b).toNat < 128 := by rwa [toNat_charOf]
    rw [List.map_cons, utf8_cons, encode_small hsmall, byteOf_charOf, hrest, List.singleton_append]

/-- Small characters take a byte each. -/
theorem utf8_small {t : Text} (h : ∀ ch ∈ t, ch.toNat < 128) : utf8 t = t.map byteOf := by
  induction t with
  | nil => rfl
  | cons ch t ih =>
    rw [utf8_cons, encode_small (h ch List.mem_cons_self), ih fun ch hch => h ch (List.mem_cons_of_mem _ hch)]
    rfl

/-- All bytes of a large character are large. -/
theorem encode_large {ch : Char} (h : 128 ≤ ch.toNat) {b : UInt8} (hb : b ∈ String.utf8EncodeChar ch) :
    128 ≤ b.toNat := by
  rw [encode_eq, if_neg (by omega)] at hb
  have hlarge : ∀ n, 128 ≤ n → n < 256 → b = UInt8.ofNat n → 128 ≤ b.toNat := by
    rintro n hn hlt rfl
    rw [toNat_ofNat_byte hlt]
    exact hn
  split at hb
  · simp only [List.mem_cons, List.not_mem_nil, or_false] at hb
    rcases hb with hb | hb <;> exact hlarge _ (by omega) (by omega) hb
  · split at hb
    · simp only [List.mem_cons, List.not_mem_nil, or_false] at hb
      rcases hb with hb | hb | hb <;> exact hlarge _ (by omega) (by omega) hb
    · simp only [List.mem_cons, List.not_mem_nil, or_false] at hb
      rcases hb with hb | hb | hb | hb <;> exact hlarge _ (by omega) (by omega) hb

end PatternGrammar.Text
