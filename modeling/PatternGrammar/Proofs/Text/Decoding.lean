import PatternGrammar.Proofs.Text.Utf8

/-!
# Bytes that are characters as far as they go

Some bytes begin with a character if and only if they begin with its encoding. So bytes fall into the characters they
begin with and a rest that begins with none, and whether a rest begins with a character is known as soon as a byte comes
that does not continue one.
-/

namespace PatternGrammar.Text

variable {bytes rest wrong : List UInt8} {ch : Char} {b : UInt8}

/-! ## The character that some bytes begin with -/

theorem charAtLeast?_eq_some {least n : Nat} (h : charAtLeast? least n = some ch) : ch.toNat = n ∧ least ≤ n := by
  by_cases hn : least ≤ n ∧ n.isValidChar
  · rw [charAtLeast?, dif_pos hn] at h
    obtain rfl := Option.some.inj h
    exact ⟨rfl, hn.1⟩
  · rw [charAtLeast?, dif_neg hn] at h
    contradiction

theorem continuation?_eq_some {n : Nat} (h : continuation? b = some n) : b.toNat = n + 128 ∧ n < 64 := by
  unfold continuation? at h
  split at h
  · obtain rfl := Option.some.inj h
    omega
  · contradiction

theorem eq_ofNat {n : Nat} (h : b.toNat = n) : b = UInt8.ofNat n := by
  rw [← h, UInt8.ofNat_toNat]

section Lengths

variable {x y z w : UInt8} {a b c d : Nat}

theorem encode_one (hx : x.toNat = a) (ha : a < 128) (hch : ch.toNat = a) :
    String.utf8EncodeChar ch = [x] ∧ ch.utf8Size = 1 := by
  rw [encode_eq, utf8Size_eq, if_pos (by omega), if_pos (by omega), ← eq_ofNat (b := x) (by omega)]
  exact ⟨rfl, rfl⟩

/-- Two bytes are those of one character if it needs two. -/
theorem encode_two (hx : x.toNat = a + 192) (ha : a < 32) (hb : continuation? y = some b) (hch : ch.toNat = a * 64 + b)
    (hleast : 128 ≤ ch.toNat) : String.utf8EncodeChar ch = [x, y] ∧ ch.utf8Size = 2 := by
  obtain ⟨hy, hb'⟩ := continuation?_eq_some hb
  rw [encode_eq, utf8Size_eq, if_neg (by omega), if_pos (by omega), if_neg (by omega), if_pos (by omega),
    ← eq_ofNat (b := x) (by omega), ← eq_ofNat (b := y) (by omega)]
  exact ⟨rfl, rfl⟩

theorem encode_three (hx : x.toNat = a + 224) (ha : a < 16) (hb : continuation? y = some b)
    (hc : continuation? z = some c) (hch : ch.toNat = (a * 64 + b) * 64 + c) (hleast : 2048 ≤ ch.toNat) :
    String.utf8EncodeChar ch = [x, y, z] ∧ ch.utf8Size = 3 := by
  obtain ⟨hy, hb'⟩ := continuation?_eq_some hb
  obtain ⟨hz, hc'⟩ := continuation?_eq_some hc
  rw [encode_eq, utf8Size_eq, if_neg (by omega), if_neg (by omega), if_pos (by omega), if_neg (by omega),
    if_neg (by omega), if_pos (by omega), ← eq_ofNat (b := x) (by omega), ← eq_ofNat (b := y) (by omega),
    ← eq_ofNat (b := z) (by omega)]
  exact ⟨rfl, rfl⟩

theorem encode_four (hx : x.toNat = a + 240) (ha : a < 8) (hb : continuation? y = some b)
    (hc : continuation? z = some c) (hd : continuation? w = some d) (hch : ch.toNat = ((a * 64 + b) * 64 + c) * 64 + d)
    (hleast : 65536 ≤ ch.toNat) : String.utf8EncodeChar ch = [x, y, z, w] ∧ ch.utf8Size = 4 := by
  obtain ⟨hy, hb'⟩ := continuation?_eq_some hb
  obtain ⟨hz, hc'⟩ := continuation?_eq_some hc
  obtain ⟨hw, hd'⟩ := continuation?_eq_some hd
  rw [encode_eq, utf8Size_eq, if_neg (by omega), if_neg (by omega), if_neg (by omega), if_neg (by omega),
    if_neg (by omega), if_neg (by omega), ← eq_ofNat (b := x) (by omega), ← eq_ofNat (b := y) (by omega),
    ← eq_ofNat (b := z) (by omega), ← eq_ofNat (b := w) (by omega)]
  exact ⟨rfl, rfl⟩

end Lengths

/-- The first character of some bytes is one whose encoding they begin with. -/
theorem encode_of_firstChar? {n : Nat} (h : firstChar? bytes = some (ch, n)) :
    ∃ rest, bytes = String.utf8EncodeChar ch ++ rest ∧ n = ch.utf8Size := by
  have hsome : ∀ {least k size : Nat}, (charAtLeast? least k).map (·, size) = some (ch, n) →
      ch.toNat = k ∧ least ≤ ch.toNat ∧ n = size := by
    intro least k size h
    obtain ⟨d, hd, hpair⟩ := Option.map_eq_some_iff.mp h
    obtain ⟨rfl, rfl⟩ := Prod.mk.inj hpair
    obtain ⟨hnumber, hleast⟩ := charAtLeast?_eq_some hd
    exact ⟨hnumber, hnumber ▸ hleast, rfl⟩
  cases bytes with
  | nil => contradiction
  | cons lead rest =>
  simp only [firstChar?] at h
  by_cases hone : lead.toNat < 128
  · rw [if_pos hone] at h
    obtain ⟨hch, -, rfl⟩ := hsome h
    obtain ⟨hencode, hsize⟩ := encode_one rfl hone hch
    exact ⟨rest, by rw [hencode]; rfl, hsize.symm⟩
  rw [if_neg hone] at h
  cases rest with
  | nil => contradiction
  | cons second rest =>
  cases hb : continuation? second with
  | none =>
    simp only [hb] at h
    contradiction
  | some b =>
  simp only [hb] at h
  by_cases htwo : 0xC0 ≤ lead.toNat ∧ lead.toNat < 0xE0
  · rw [if_pos htwo] at h
    obtain ⟨hch, hleast, rfl⟩ := hsome h
    obtain ⟨hencode, hsize⟩ := encode_two (x := lead) (by omega) (by omega) hb hch hleast
    exact ⟨rest, by rw [hencode]; rfl, hsize.symm⟩
  rw [if_neg htwo] at h
  cases rest with
  | nil => contradiction
  | cons third rest =>
  cases hc : continuation? third with
  | none =>
    simp only [hc] at h
    contradiction
  | some c =>
  simp only [hc] at h
  by_cases hthree : 0xE0 ≤ lead.toNat ∧ lead.toNat < 0xF0
  · rw [if_pos hthree] at h
    obtain ⟨hch, hleast, rfl⟩ := hsome h
    obtain ⟨hencode, hsize⟩ := encode_three (x := lead) (by omega) (by omega) hb hc hch hleast
    exact ⟨rest, by rw [hencode]; rfl, hsize.symm⟩
  rw [if_neg hthree] at h
  cases rest with
  | nil => contradiction
  | cons fourth rest =>
  cases hd : continuation? fourth with
  | none =>
    simp only [hd] at h
    contradiction
  | some d =>
  simp only [hd] at h
  by_cases hfour : 0xF0 ≤ lead.toNat ∧ lead.toNat < 0xF8
  · rw [if_pos hfour] at h
    obtain ⟨hch, hleast, rfl⟩ := hsome h
    obtain ⟨hencode, hsize⟩ := encode_four (x := lead) (by omega) (by omega) hb hc hd hch hleast
    exact ⟨rest, by rw [hencode]; rfl, hsize.symm⟩
  · rw [if_neg hfour] at h
    contradiction

/-! ## Bytes that continue a character -/

/-- The byte may stand in a character behind its first byte. -/
def Continues (b : UInt8) : Prop :=
  128 ≤ b.toNat ∧ b.toNat < 192

theorem continues_ofNat {n : Nat} (h : n < 64) : Continues (UInt8.ofNat (n + 128)) := by
  rw [Continues, toNat_ofNat_byte (by omega)]
  omega

/-- A character is a byte that does not continue one, and bytes that do. -/
theorem exists_encode (ch : Char) :
    ∃ first more, String.utf8EncodeChar ch = first :: more ∧ ¬ Continues first ∧ ∀ b ∈ more, Continues b := by
  have hmod : ∀ n, Continues (UInt8.ofNat (n % 64 + 128)) := fun n => continues_ofNat (Nat.mod_lt n (by decide))
  have hfirst : ∀ n, n < 128 ∨ 192 ≤ n ∧ n < 256 → ¬ Continues (UInt8.ofNat n) := by
    intro n hn
    rw [Continues, toNat_ofNat_byte (by omega)]
    omega
  have hnone : ∀ b ∈ ([] : List UInt8), Continues b := List.forall_mem_nil _
  have hcons : ∀ n {more : List UInt8}, (∀ b ∈ more, Continues b) →
      ∀ b ∈ UInt8.ofNat (n % 64 + 128) :: more, Continues b :=
    fun n more hmore => List.forall_mem_cons.mpr ⟨hmod n, hmore⟩
  rw [encode_eq]
  split
  · exact ⟨_, _, rfl, hfirst _ (by omega), hnone⟩
  split
  · exact ⟨_, _, rfl, hfirst _ (by omega), hcons _ hnone⟩
  split
  · exact ⟨_, _, rfl, hfirst _ (by omega), hcons _ (hcons _ hnone)⟩
  · exact ⟨_, _, rfl, hfirst _ (by omega), hcons _ (hcons _ (hcons _ hnone))⟩

/-- Bytes that begin with no character still begin with none when others come behind them, as long as the first of these
continues no character. -/
theorem firstChar?_cut (hwrong : wrong ≠ []) (h : firstChar? (wrong ++ bytes) = none)
    (hrest : ∀ b, rest.head? = some b → ¬ Continues b) : firstChar? (wrong ++ rest) = none := by
  have hbegins : ∀ ch more, wrong ≠ String.utf8EncodeChar ch ++ more := by
    rintro ch more rfl
    rw [List.append_assoc, firstChar?_encode] at h
    contradiction
  cases hfirst : firstChar? (wrong ++ rest) with
  | none => rfl
  | some found =>
    obtain ⟨after, hencode, -⟩ := encode_of_firstChar? hfirst
    obtain ⟨first, more, hch, -, hmore⟩ := exists_encode found.1
    cases wrong with
    | nil => contradiction
    | cons b wrong =>
      rw [hch] at hencode
      obtain ⟨rfl, htail⟩ := List.cons.inj hencode
      -- the character ends within the wrong bytes, or goes on in the others
      obtain ⟨left, hmiddle, hleft⟩ | ⟨left, hmiddle, -⟩ := List.append_eq_append_iff.mp htail
      · cases left with
        | nil =>
          rw [List.append_nil] at hmiddle
          exact absurd (by rw [hch, hmiddle, List.append_nil]) (hbegins found.1 [])
        | cons b left =>
          have hcontinues : Continues b := hmore b (by simp [hmiddle])
          exact absurd hcontinues (hrest b (by rw [hleft]; rfl))
      · exact absurd (by rw [hch, hmiddle]; rfl) (hbegins found.1 left)

/-! ## Decoding -/

theorem length_le_utf8 (t : Text) : t.length ≤ (utf8 t).length := by
  induction t with
  | nil => exact Nat.le_refl _
  | cons ch t ih =>
    rw [utf8_cons, List.length_append, String.length_utf8EncodeChar, List.length_cons]
    have hpos := ch.utf8Size_pos
    omega

/-- Bytes of characters are decoded up to the first byte that begins none. -/
theorem decodeFrom_append (t : Text) (h : firstChar? wrong = none) {fuel : Nat} (hfuel : t.length ≤ fuel) :
    decodeFrom fuel (utf8 t ++ wrong) = (t, wrong) := by
  induction t generalizing fuel with
  | nil =>
    cases fuel with
    | zero => rfl
    | succ fuel =>
      rw [utf8_nil, List.nil_append, decodeFrom, h]
  | cons ch t ih =>
    cases fuel with
    | zero => contradiction
    | succ fuel =>
      have hdrop : (utf8 (ch :: t) ++ wrong).drop ch.utf8Size = utf8 t ++ wrong := by
        rw [utf8_cons, List.append_assoc, ← String.length_utf8EncodeChar, List.drop_left]
      have hfirst : firstChar? (utf8 (ch :: t) ++ wrong) = some (ch, ch.utf8Size) := by
        rw [utf8_cons, List.append_assoc, firstChar?_encode]
      simp only [decodeFrom, hfirst, hdrop]
      rw [ih (Nat.le_of_succ_le_succ hfuel)]

/-- Decoding finds the characters of a text, and the bytes behind it if they begin with no character. -/
theorem decode_append (t : Text) (h : firstChar? wrong = none) : decode (utf8 t ++ wrong) = (t, wrong) := by
  apply decodeFrom_append t h
  rw [List.length_append]
  have hlength := length_le_utf8 t
  omega

end PatternGrammar.Text
