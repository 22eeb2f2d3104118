import PatternGrammar.Proofs.Config.ByteStream
import PatternGrammar.Proofs.Config.Quotation
import PatternGrammar.Proofs.Text.Decoding

/-!
# Strings within a line

A line never ends inside a string, for the byte that ends it would have to be escaped. So the place of a byte in a
string is found by counting from the place where the string begins, and also back from where it ends.
-/

namespace PatternGrammar.Config

variable {c c' : Cursor} {b : UInt8}

/-! ## Cursors in one line -/

/-- The second cursor stands some bytes behind the first, in the same line. -/
inductive Cursor.Along : Cursor → Nat → Cursor → Prop where
  | here (c : Cursor) : Along c 0 c
  | step {c c' : Cursor} {b : UInt8} {n : Nat} : c.head? = some b → b ≠ 0x0A → Along c.eat n c' → Along c (n + 1) c'

namespace Cursor.Along

variable {c'' : Cursor} {m n : Nat}

theorem one (hb : c.head? = some b) (hline : b ≠ 0x0A) : Along c 1 c.eat :=
  .step hb hline (.here _)

theorem trans (h : Along c m c') (h' : Along c' n c'') : Along c (m + n) c'' := by
  induction h with
  | here c =>
    rw [Nat.zero_add]
    exact h'
  | step hb hline _ ih =>
    rw [Nat.add_right_comm]
    exact .step hb hline (ih h')

theorem eatMany (h : Along c n c') : c.eatMany n = c' := by
  induction h with
  | here c => rfl
  | step _ _ _ ih => exact ih

theorem length (h : Along c n c') : c.rest.length = n + c'.rest.length := by
  induction h with
  | here c => exact (Nat.zero_add _).symm
  | step hb _ _ ih =>
    rw [Cursor.rest_eq_of_head? hb, List.length_cons, ih]
    omega

theorem of_bytes {piece rest : List UInt8} (hpiece : ∀ b ∈ piece, b ≠ 0x0A) (hc : c.rest = piece ++ rest) :
    Along c piece.length (c.eatMany piece.length) := by
  induction piece generalizing c with
  | nil => exact .here c
  | cons b piece ih =>
    rw [List.cons_append] at hc
    exact .step (Cursor.head?_of_rest hc) (hpiece b List.mem_cons_self)
      (ih (fun b hb => hpiece b (List.mem_cons_of_mem _ hb)) (Cursor.rest_eat_of_rest hc))

/-- A byte other than a line feed moves the column only, and the stream agrees. -/
theorem place_eat (hb : c.head? = some b) (hline : b ≠ 0x0A) :
    c.eat.place = ⟨c.place.line, c.place.column + 1⟩ ∧ c.eat.stream.place = c.eat.place := by
  obtain ⟨rest, hrest⟩ := List.head?_eq_some_iff.mp hb
  rw [Cursor.eat, hrest]
  exact ⟨if_neg hline, rfl⟩

/-- The stream of a cursor on the way, but not of the first, stands as far on as the cursor. -/
theorem place (h : Along c n c') (hm : 0 < m) (hmn : m ≤ n) :
    (c.eatMany m).stream.place = ⟨c.place.line, c.place.column + m⟩ := by
  induction h generalizing m with
  | here c => omega
  | @step c c' b n hb hline _ ih =>
    obtain ⟨heat, hstream⟩ := place_eat hb hline
    cases m with
    | zero => contradiction
    | succ m =>
      rw [Cursor.eatMany]
      by_cases hzero : m = 0
      · rw [hzero, Cursor.eatMany, hstream, heat]
      · rw [ih (Nat.pos_of_ne_zero hzero) (Nat.le_of_succ_le_succ hmn), heat, Nat.add_right_comm, Nat.add_assoc]

end Cursor.Along

open Cursor (Along)

/-! ## Escapes -/

/-- A line feed is no digit, so no escape goes over the end of a line. -/
theorem hexDigit?_line : hexDigit? 0x0A = none := by
  decide

theorem readFourDigits_along {n : Nat} (h : readFourDigits c = .ok (n, c')) : Along c 4 c' := by
  unfold readFourDigits at h
  split at h
  · contradiction
  next hlong =>
  split at h
  · contradiction
  next m hm =>
  obtain ⟨rfl, rfl⟩ := Prod.mk.inj (Except.ok.inj h)
  obtain ⟨values, hvalues, -⟩ := foldl_hexDigit?.mp hm
  have hfour : (c.rest.take 4).length = 4 := by
    rw [List.length_take]
    omega
  have halong : Along c (c.rest.take 4).length (c.eatMany (c.rest.take 4).length) := by
    refine .of_bytes ?_ (List.take_append_drop 4 c.rest).symm
    rintro b hb rfl
    obtain ⟨v, hv⟩ := (values_of_map_eq hvalues).2 _ hb
    rw [hexDigit?_line] at hv
    contradiction
  rw [hfour] at halong
  exact halong

theorem readPairByte_along (hline : b ≠ 0x0A) (h : readPairByte b c = .ok c') : Along c 1 c' := by
  unfold readPairByte at h
  split at h
  · contradiction
  next d hd =>
  split at h
  · next hsame =>
    obtain rfl := eq_of_beq hsame
    obtain rfl := Except.ok.inj h
    exact .one hd hline
  · contradiction

theorem readNumberedChar_along {ch : Char} (h : readNumberedChar c = .ok (ch, c')) :
    ∃ n, Along c n c' ∧ ch.utf8Size ≤ n := by
  have hsize := ch.utf8Size_le_four
  unfold readNumberedChar at h
  obtain ⟨⟨n, c1⟩, hfirst, h⟩ := exists_of_bind_eq_ok h
  have halong := readFourDigits_along hfirst
  dsimp only at h
  split at h
  · contradiction
  split at h
  · obtain ⟨-, rfl⟩ := Prod.mk.inj (Except.ok.inj h)
    exact ⟨4, halong, hsize⟩
  obtain ⟨c2, hbackslash, h⟩ := exists_of_bind_eq_ok h
  obtain ⟨c3, hu, h⟩ := exists_of_bind_eq_ok h
  obtain ⟨⟨m, c4⟩, hsecond, h⟩ := exists_of_bind_eq_ok h
  have hmarks := (readPairByte_along (by decide) hbackslash).trans (readPairByte_along (by decide) hu)
  dsimp only at h
  split at h
  · obtain ⟨-, rfl⟩ := Prod.mk.inj (Except.ok.inj h)
    exact ⟨_, halong.trans (hmarks.trans (readFourDigits_along hsecond)), by omega⟩
  · contradiction

theorem plainEscape?_size {ch : Char} (h : plainEscape? b = some ch) : b ≠ 0x0A ∧ ch.utf8Size = 1 := by
  have hsizes : ∀ pair ∈ Json.escapes, pair.2.utf8Size = 1 := by decide
  refine ⟨?_, hsizes _ (plainEscape?_sound h).1⟩
  rintro rfl
  contradiction

/-- What an escape stands for is no longer than the escape with its backslash. -/
theorem readEscape_along {ch : Char} (h : readEscape c = .ok (ch, c')) : ∃ n, Along c n c' ∧ ch.utf8Size ≤ n + 1 := by
  unfold readEscape at h
  split at h
  · contradiction
  next b hb =>
  split at h
  · next hu =>
    obtain rfl := eq_of_beq hu
    obtain ⟨n, halong, hsize⟩ := readNumberedChar_along h
    exact ⟨1 + n, (Along.one hb (by decide)).trans halong, by omega⟩
  split at h
  · next ch' hch =>
    obtain ⟨rfl, rfl⟩ := Prod.mk.inj (Except.ok.inj h)
    obtain ⟨hline, hsize⟩ := plainEscape?_size hch
    exact ⟨1, .one hb hline, by omega⟩
  · contradiction

/-! ## Strings -/

/-- The bytes of a character stand for themselves if the first does. -/
theorem plainByte_of_head? {ch : Char} {rest : List UInt8} (hhead : c.head? = some b)
    (hc : c.rest = String.utf8EncodeChar ch ++ rest) (hb : PlainByte b) :
    ∀ d ∈ String.utf8EncodeChar ch, PlainByte d := by
  by_cases hsmall : ch.toNat < 128
  · rw [Text.encode_small hsmall] at hc ⊢
    obtain rfl := Option.some.inj (hhead.symm.trans (Cursor.head?_of_rest hc))
    simpa using hb
  · have hplain : Json.Plain ch := by
      refine ⟨by omega, ?_, ?_⟩ <;> rintro rfl <;> exact hsmall (by decide)
    exact fun d hd => plainByte_of_mem_encode hplain hd

theorem getD_map_add (since : Option Nat) (n : Nat) : (since.map (· + n)).getD 0 ≤ since.getD 0 + n := by
  cases since with
  | none => exact Nat.zero_le _
  | some count => exact Nat.le_refl _

/-- A string is read within its line, and what is counted of it is no more than what is read. -/
theorem readStringFrom_along {fuel : Nat} {taken chars : Text} {since since' : Option Nat} {c c' : Cursor}
    (h : readStringFrom fuel taken since c = .ok (chars, since', c')) :
    ∃ n, Along c n c' ∧ since'.getD 0 < since.getD 0 + n := by
  induction fuel generalizing taken since c with
  | zero => contradiction
  | succ fuel ih =>
  unfold readStringFrom at h
  split at h
  · contradiction
  next b hb =>
  split at h
  · next hquote =>
    obtain rfl := eq_of_beq hquote
    obtain ⟨-, hpair⟩ := Prod.mk.inj (Except.ok.inj h)
    obtain ⟨rfl, rfl⟩ := Prod.mk.inj hpair
    exact ⟨1, .one hb (by decide), Nat.lt_succ_self _⟩
  split at h
  · next hbackslash =>
    obtain rfl := eq_of_beq hbackslash
    split at h
    · contradiction
    next ch c1 hescape =>
    obtain ⟨m, halong, hsize⟩ := readEscape_along hescape
    obtain ⟨n, hlater, hcount⟩ := ih h
    have hmap := getD_map_add since ch.utf8Size
    exact ⟨1 + m + n, ((Along.one hb (by decide)).trans halong).trans hlater, by omega⟩
  split at h
  · contradiction
  next hquote hbackslash hcontrol =>
  have hplain : PlainByte b := ⟨eq_false_of_ne_true hquote, eq_false_of_ne_true hbackslash, hcontrol⟩
  have hline : ∀ {d}, PlainByte d → d ≠ 0x0A := by
    rintro d hd rfl
    exact hd.2.2 (by decide)
  split at h
  · next ch n hfirst =>
    obtain ⟨rest, hbytes, rfl⟩ := Text.encode_of_firstChar? hfirst
    obtain ⟨m, hlater, hcount⟩ := ih h
    have hmap := getD_map_add since ch.utf8Size
    have halong := Along.of_bytes (fun d hd => hline (plainByte_of_head? hb hbytes hplain d hd)) hbytes
    rw [String.length_utf8EncodeChar] at halong
    exact ⟨ch.utf8Size + m, halong.trans hlater, by omega⟩
  · obtain ⟨n, hlater, hcount⟩ := ih h
    rw [Option.getD_some] at hcount
    exact ⟨1 + n, (Along.one hb (hline hplain)).trans hlater, by omega⟩

end PatternGrammar.Config
