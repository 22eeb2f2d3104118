import PatternGrammar.Proofs.Config.Escape

/-!
# Strings

A string that is skipped has a body of the grammar; one that is read spells the text that was read off it. The bytes in
front of the cursor have to be a text: a skipped string is not asked whether its bytes are characters.
-/

namespace PatternGrammar.Config

open Json (Plain Body Spells)

/-! ## Characters that stand for themselves -/

/-- A byte that neither ends a string, nor begins an escape, nor may not stand in a string. -/
def PlainByte (b : UInt8) : Prop :=
  (b == 0x22) = false ∧ (b == 0x5C) = false ∧ ¬ b.toNat < 0x20

/-- The bytes of a plain character are plain, whether it has one or more. -/
theorem plainByte_of_mem_encode {ch : Char} (h : Plain ch) {b : UInt8} (hb : b ∈ String.utf8EncodeChar ch) :
    PlainByte b := by
  obtain ⟨hcontrol, hquote, hbackslash⟩ := h
  simp only [PlainByte, beq_eq_false_iff_ne, ne_eq]
  by_cases hsmall : ch.toNat < 128
  · rw [Text.encode_small hsmall, List.mem_singleton] at hb
    have hnat : b.toNat = ch.toNat := by rw [hb, Text.toNat_byteOf hsmall]
    refine ⟨?_, ?_, by omega⟩
    · rintro rfl
      exact hquote (Char.toNat_inj.mp hnat.symm)
    · rintro rfl
      exact hbackslash (Char.toNat_inj.mp hnat.symm)
  · -- the bytes of a large character are large, and these are small
    have hlarge := Text.encode_large (by omega) hb
    refine ⟨?_, ?_, by omega⟩ <;> rintro rfl <;> contradiction

/-- What a string goes on with at a cursor before a text. -/
inductive Next (c : Cursor) : Text → Prop where
  | nothing : c.head? = none → Next c []
  | quote {t : Text} : c.rest = 0x22 :: Text.utf8 t → Next c ('"' :: t)
  | backslash {t : Text} : c.rest = 0x5C :: Text.utf8 t → Next c ('\\' :: t)
  | control {ch : Char} {t : Text} {b : UInt8} : c.head? = some b → b.toNat < 0x20 → Next c (ch :: t)
  | plain {ch : Char} {t : Text} : Plain ch → c.rest = String.utf8EncodeChar ch ++ Text.utf8 t → Next c (ch :: t)

/-- A string goes on with nothing, a quote, a backslash, a control character or a plain one. -/
theorem next_of_rest {c : Cursor} {t : Text} (hc : c.rest = Text.utf8 t) : Next c t := by
  cases t with
  | nil =>
    refine .nothing ?_
    rw [Cursor.head?, hc]
    rfl
  | cons ch t =>
    by_cases hquote : ch = '"'
    · subst hquote
      exact .quote hc
    by_cases hbackslash : ch = '\\'
    · subst hbackslash
      exact .backslash hc
    by_cases hcontrol : ch.toNat < 0x20
    · have hsmall : ch.toNat < 128 := by omega
      rw [Text.utf8_cons, Text.encode_small hsmall] at hc
      refine .control (Cursor.head?_of_rest hc) ?_
      rw [Text.toNat_byteOf hsmall]
      exact hcontrol
    · exact .plain ⟨by omega, hquote, hbackslash⟩ hc

/-- A byte of a control character neither ends a string nor begins an escape. -/
theorem beq_of_control {b : UInt8} (hb : b.toNat < 0x20) : (b == 0x22) = false ∧ (b == 0x5C) = false := by
  rw [beq_eq_false_iff_ne, beq_eq_false_iff_ne]
  constructor <;> rintro rfl <;> contradiction

/-! ## Strings that are skipped -/

section Steps

variable {fuel : Nat} {c : Cursor} {b : UInt8} {rest : List UInt8}

theorem skipStringFrom_nothing (hc : c.head? = none) :
    skipStringFrom (fuel + 1) c = refuse (.endOfInput .string) c := by
  simp only [skipStringFrom, hc]

theorem skipStringFrom_quote (hc : c.rest = 0x22 :: rest) : skipStringFrom (fuel + 1) c = .ok c.eat := by
  simp only [skipStringFrom, Cursor.head?_of_rest hc, beq_self_eq_true, if_true]

theorem skipStringFrom_backslash (hc : c.rest = 0x5C :: rest) :
    skipStringFrom (fuel + 1) c = skipEscape c.eat >>= skipStringFrom fuel := by
  have hne : ((0x5C : UInt8) == 0x22) = false := by decide
  simp only [skipStringFrom, Cursor.head?_of_rest hc, hne, beq_self_eq_true, if_true, Bool.false_eq_true, if_false]
  cases skipEscape c.eat <;> rfl

theorem skipStringFrom_control (hc : c.head? = some b) (hb : b.toNat < 0x20) :
    skipStringFrom (fuel + 1) c = refuse .controlCharacter c.look := by
  simp only [skipStringFrom, hc, beq_of_control hb, hb, Bool.false_eq_true, if_false, if_true]

theorem skipStringFrom_plain (hc : c.rest = b :: rest) (hb : PlainByte b) :
    skipStringFrom (fuel + 1) c = skipStringFrom fuel c.eat := by
  obtain ⟨hquote, hbackslash, hcontrol⟩ := hb
  simp only [skipStringFrom, Cursor.head?_of_rest hc, hquote, hbackslash, hcontrol, Bool.false_eq_true, if_false]

end Steps

/-- The text may begin in the middle of a character, of which only bytes are left that stand for themselves. -/
theorem skipStringFrom_sound {fuel : Nat} {c c' : Cursor} {bytes : List UInt8} {t : Text}
    (hbytes : ∀ b ∈ bytes, PlainByte b) (hc : c.rest = bytes ++ Text.utf8 t) (h : skipStringFrom fuel c = .ok c') :
    ∃ body, Body body ∧ Text.utf8 t = Text.utf8 (body ++ ['"']) ++ c'.rest := by
  have hnone : ∀ b ∈ ([] : List UInt8), PlainByte b := by simp
  induction fuel generalizing c bytes t with
  | zero => contradiction
  | succ fuel ih =>
    cases bytes with
    | cons b bytes =>
      -- one more byte of the character that has been begun
      rw [List.cons_append] at hc
      rw [skipStringFrom_plain hc (hbytes b List.mem_cons_self)] at h
      exact ih (fun b hb => hbytes b (List.mem_cons_of_mem _ hb)) (Cursor.rest_eat_of_rest hc) h
    | nil =>
      cases next_of_rest hc with
      | nothing hend =>
        rw [skipStringFrom_nothing hend] at h
        contradiction
      | quote hquote =>
        rw [skipStringFrom_quote hquote] at h
        obtain rfl := Except.ok.inj h
        refine ⟨[], .nil, ?_⟩
        rw [Cursor.rest_eat_of_rest hquote]
        rfl
      | backslash hbackslash =>
        rw [skipStringFrom_backslash hbackslash] at h
        obtain ⟨c1, hescape, h⟩ := exists_of_bind_eq_ok h
        obtain ⟨e, he, hpiece⟩ := skipEscape_sound hescape
        rw [Cursor.rest_eat_of_rest hbackslash] at hpiece
        obtain ⟨after, rfl, hafter⟩ := Text.utf8_eq_append hpiece
        obtain ⟨body, hbody, hrest⟩ := ih hnone hafter h
        refine ⟨'\\' :: (e ++ body), .escape he hbody, ?_⟩
        simp only [Text.utf8_cons, Text.utf8_append, List.cons_append, List.append_assoc, hrest]
      | control hhead hb =>
        rw [skipStringFrom_control hhead hb] at h
        contradiction
      | @plain ch t hplain hplainBytes =>
        -- only the first byte of the character is taken now
        have hall : ∀ b ∈ String.utf8EncodeChar ch, PlainByte b := fun b hb => plainByte_of_mem_encode hplain hb
        cases hencode : String.utf8EncodeChar ch with
        | nil => exact absurd hencode String.utf8EncodeChar_ne_nil
        | cons b bytes =>
          rw [hencode, List.cons_append] at hplainBytes
          rw [hencode] at hall
          rw [skipStringFrom_plain hplainBytes (hall b List.mem_cons_self)] at h
          obtain ⟨body, hbody, hrest⟩ :=
            ih (fun b hb => hall b (List.mem_cons_of_mem _ hb)) (Cursor.rest_eat_of_rest hplainBytes) h
          refine ⟨ch :: body, .plain hplain hbody, ?_⟩
          rw [Text.utf8_cons, hrest, List.cons_append, Text.utf8_cons, List.append_assoc]

/-- What is skipped as a string has the form of one, if it is a text. -/
theorem skipString_sound {c c' : Cursor} (hc : c.Readable) (h : skipString c = .ok c') :
    ∃ body, Body body ∧ c.rest = Text.utf8 (body ++ ['"']) ++ c'.rest := by
  obtain ⟨t, ht⟩ := hc
  have hnone : ∀ b ∈ ([] : List UInt8), PlainByte b := by simp
  obtain ⟨body, hbody, hrest⟩ := skipStringFrom_sound hnone ht h
  exact ⟨body, hbody, by rw [ht, hrest]⟩

/-- Bytes that stand for themselves are passed. -/
theorem skipStringFrom_bytes {fuel : Nat} {c : Cursor} {bytes rest : List UInt8} (hbytes : ∀ b ∈ bytes, PlainByte b)
    (hc : c.rest = bytes ++ rest) (hfuel : c.rest.length < fuel) :
    ∃ fuel' c', skipStringFrom fuel c = skipStringFrom fuel' c' ∧ c'.rest = rest ∧ rest.length < fuel' := by
  induction bytes generalizing fuel c with
  | nil =>
    have hsame : c.rest = rest := hc
    exact ⟨fuel, c, rfl, hsame, by rw [← hsame]; exact hfuel⟩
  | cons b bytes ih =>
    rw [List.cons_append] at hc
    have heat := Cursor.rest_eat_of_rest hc
    cases fuel with
    | zero => omega
    | succ fuel =>
      rw [skipStringFrom_plain hc (hbytes b List.mem_cons_self)]
      refine ih (fun b hb => hbytes b (List.mem_cons_of_mem _ hb)) heat ?_
      rw [hc, List.length_cons] at hfuel
      rw [heat]
      omega

/-- The body of a string is passed. -/
theorem skipStringFrom_complete {body : Text} (hbody : Body body) {fuel : Nat} {c : Cursor} {rest : List UInt8}
    (hc : c.rest = Text.utf8 body ++ rest) (hfuel : c.rest.length < fuel) :
    ∃ fuel' c', skipStringFrom fuel c = skipStringFrom fuel' c' ∧ c'.rest = rest ∧ rest.length < fuel' := by
  induction hbody generalizing fuel c with
  | nil =>
    have hnone : ∀ b ∈ ([] : List UInt8), PlainByte b := by simp
    exact skipStringFrom_bytes hnone hc hfuel
  | plain hplain hbody ih =>
    rw [Text.utf8_cons, List.append_assoc] at hc
    obtain ⟨fuel1, c1, hskip, hc1, hfuel1⟩ :=
      skipStringFrom_bytes (fun b hb => plainByte_of_mem_encode hplain hb) hc hfuel
    rw [hskip]
    exact ih hc1 (by rw [hc1]; exact hfuel1)
  | @escape e t he hbody ih =>
    have hbackslash : c.rest = 0x5C :: (Text.utf8 (e ++ t) ++ rest) := hc
    have heat := Cursor.rest_eat_of_rest hbackslash
    rw [Text.utf8_append, List.append_assoc] at heat
    obtain ⟨c1, hescape, hc1⟩ := skipEscape_complete he heat
    cases fuel with
    | zero => omega
    | succ fuel =>
      rw [skipStringFrom_backslash hbackslash, hescape, bind_ok]
      refine ih hc1 ?_
      rw [hbackslash, List.length_cons, Text.utf8_append, List.append_assoc, List.length_append] at hfuel
      rw [hc1]
      omega

/-- All that has the form of a string is skipped up to its closing quote. -/
theorem skipString_complete {c : Cursor} {body : Text} {rest : List UInt8} (hbody : Body body)
    (hc : c.rest = Text.utf8 (body ++ ['"']) ++ rest) : ∃ c', skipString c = .ok c' ∧ c'.rest = rest := by
  rw [Text.utf8_append, List.append_assoc] at hc
  obtain ⟨fuel, c1, hskip, hc1, hfuel⟩ := skipStringFrom_complete hbody hc (Nat.lt_succ_self _)
  have hquote : c1.rest = 0x22 :: rest := hc1
  refine ⟨c1.eat, ?_, Cursor.rest_eat_of_rest hquote⟩
  cases fuel with
  | zero => omega
  | succ fuel =>
    rw [skipString, hskip, skipStringFrom_quote hquote]

/-! ## Strings that are read -/

section Steps

variable {fuel : Nat} {taken : List Char} {c : Cursor} {b : UInt8} {rest : List UInt8}

theorem readStringFrom_nothing (hc : c.head? = none) :
    readStringFrom (fuel + 1) taken none c = refuse (.endOfInput .string) c := by
  simp only [readStringFrom, hc]

theorem readStringFrom_quote (hc : c.rest = 0x22 :: rest) :
    readStringFrom (fuel + 1) taken none c = .ok (taken.reverse, none, c.eat) := by
  simp only [readStringFrom, Cursor.head?_of_rest hc, beq_self_eq_true, if_true]

theorem readStringFrom_backslash (hc : c.rest = 0x5C :: rest) :
    readStringFrom (fuel + 1) taken none c =
      readEscape c.eat >>= fun x => readStringFrom fuel (x.1 :: taken) none x.2 := by
  have hne : ((0x5C : UInt8) == 0x22) = false := by decide
  simp only [readStringFrom, Cursor.head?_of_rest hc, hne, beq_self_eq_true, if_true, Bool.false_eq_true, if_false,
    Option.map_none]
  cases readEscape c.eat <;> rfl

theorem readStringFrom_control (hc : c.head? = some b) (hb : b.toNat < 0x20) :
    readStringFrom (fuel + 1) taken none c = refuse .controlCharacter c.eat := by
  simp only [readStringFrom, hc, beq_of_control hb, hb, Bool.false_eq_true, if_false, if_true]

theorem readStringFrom_plain {ch : Char} (hch : Plain ch) (hc : c.rest = String.utf8EncodeChar ch ++ rest) :
    readStringFrom (fuel + 1) taken none c = readStringFrom fuel (ch :: taken) none (c.eatMany ch.utf8Size) ∧
      (c.eatMany ch.utf8Size).rest = rest := by
  constructor
  · have hfirst : Text.firstChar? c.rest = some (ch, ch.utf8Size) := by rw [hc, Text.firstChar?_encode]
    cases hencode : String.utf8EncodeChar ch with
    | nil => exact absurd hencode String.utf8EncodeChar_ne_nil
    | cons b bytes =>
      have hb : b ∈ String.utf8EncodeChar ch := by
        rw [hencode]
        exact List.mem_cons_self
      obtain ⟨hquote, hbackslash, hcontrol⟩ := plainByte_of_mem_encode hch hb
      rw [hencode, List.cons_append] at hc
      simp only [readStringFrom, Cursor.head?_of_rest hc, hquote, hbackslash, hcontrol, Bool.false_eq_true, if_false,
        hfirst, Option.map_none]
  · rw [Cursor.rest_eatMany, hc, ← String.length_utf8EncodeChar, List.drop_left]

end Steps

/-- What is read as a string stands for the characters that are read. -/
theorem readStringFrom_sound {fuel : Nat} {taken chars : List Char} {since : Option Nat} {c c' : Cursor} {t : Text}
    (hc : c.rest = Text.utf8 t) (h : readStringFrom fuel taken none c = .ok (chars, since, c')) :
    since = none ∧ ∃ s body, chars = taken.reverse ++ s ∧ Spells s body ∧
      c.rest = Text.utf8 (body ++ ['"']) ++ c'.rest := by
  induction fuel generalizing c taken t with
  | zero => contradiction
  | succ fuel ih =>
    cases next_of_rest hc with
    | nothing hend =>
      rw [readStringFrom_nothing hend] at h
      contradiction
    | quote hquote =>
      rw [readStringFrom_quote hquote] at h
      obtain ⟨rfl, hpair⟩ := Prod.mk.inj (Except.ok.inj h)
      obtain ⟨rfl, rfl⟩ := Prod.mk.inj hpair
      refine ⟨rfl, [], [], (List.append_nil _).symm, .nil, ?_⟩
      rw [Cursor.rest_eat_of_rest hquote]
      exact hquote
    | backslash hbackslash =>
      rw [readStringFrom_backslash hbackslash] at h
      obtain ⟨⟨ch, c1⟩, hescape, h⟩ := exists_of_bind_eq_ok h
      obtain ⟨e, he, hpiece⟩ := readEscape_sound hescape
      rw [Cursor.rest_eat_of_rest hbackslash] at hpiece
      obtain ⟨after, rfl, hafter⟩ := Text.utf8_eq_append hpiece
      obtain ⟨hsince, s, body, hchars, hspells, hrest⟩ := ih hafter h
      refine ⟨hsince, ch :: s, '\\' :: (e ++ body), ?_, .escape he hspells, ?_⟩
      · rw [hchars, List.reverse_cons, List.append_assoc, List.singleton_append]
      · rw [hafter] at hrest
        rw [hc]
        simp only [Text.utf8_cons, Text.utf8_append, List.cons_append, List.append_assoc, hrest]
    | control hhead hb =>
      rw [readStringFrom_control hhead hb] at h
      contradiction
    | @plain ch t hplain hbytes =>
      obtain ⟨hstep, hafter⟩ := readStringFrom_plain hplain hbytes
      rw [hstep] at h
      obtain ⟨hsince, s, body, hchars, hspells, hrest⟩ := ih hafter h
      refine ⟨hsince, ch :: s, ch :: body, ?_, .plain hplain hspells, ?_⟩
      · rw [hchars, List.reverse_cons, List.append_assoc, List.singleton_append]
      · rw [hbytes, ← hafter, hrest, List.cons_append, Text.utf8_cons, List.append_assoc]

/-- A string that has been read spells the text read off it. -/
theorem readString_sound {c c' : Cursor} {s : Text} (hc : c.Readable) (h : readString c = .ok (s, c')) :
    ∃ body, Spells s body ∧ c.rest = Text.utf8 (body ++ ['"']) ++ c'.rest := by
  obtain ⟨t, ht⟩ := hc
  unfold readString at h
  split at h
  · contradiction
  · next chars after hread =>
    obtain ⟨rfl, rfl⟩ := Prod.mk.inj (Except.ok.inj h)
    obtain ⟨-, s, body, hchars, hspells, hrest⟩ := readStringFrom_sound ht hread
    have hsame : chars = s := hchars
    rw [hsame]
    exact ⟨body, hspells, hrest⟩
  · next count after hread =>
    obtain ⟨hsince, -⟩ := readStringFrom_sound ht hread
    contradiction

/-- The body of a string is read. -/
theorem readStringFrom_complete {s body : Text} (hbody : Spells s body) {fuel : Nat} {taken : List Char} {c : Cursor}
    {rest : List UInt8} (hc : c.rest = Text.utf8 body ++ rest) (hfuel : c.rest.length < fuel) :
    ∃ fuel' c', readStringFrom fuel taken none c = readStringFrom fuel' (s.reverse ++ taken) none c' ∧
      c'.rest = rest ∧ rest.length < fuel' := by
  induction hbody generalizing fuel taken c with
  | nil =>
    have hsame : c.rest = rest := hc
    exact ⟨fuel, c, rfl, hsame, by rw [← hsame]; exact hfuel⟩
  | @plain ch s t hplain hbody ih =>
    rw [Text.utf8_cons, List.append_assoc] at hc
    cases fuel with
    | zero => omega
    | succ fuel =>
      obtain ⟨hstep, hafter⟩ := readStringFrom_plain hplain hc
      have hshorter : (c.eatMany ch.utf8Size).rest.length < fuel := by
        rw [hc, ← hafter, List.length_append, String.length_utf8EncodeChar] at hfuel
        have hpos := ch.utf8Size_pos
        omega
      obtain ⟨fuel', c', hread, hc', hfuel'⟩ := @ih fuel (ch :: taken) _ hafter hshorter
      refine ⟨fuel', c', ?_, hc', hfuel'⟩
      rw [hstep, hread, List.reverse_cons, List.append_assoc, List.singleton_append]
  | @escape ch e s t he hbody ih =>
    have hbackslash : c.rest = 0x5C :: (Text.utf8 (e ++ t) ++ rest) := hc
    have heat := Cursor.rest_eat_of_rest hbackslash
    rw [Text.utf8_append, List.append_assoc] at heat
    obtain ⟨c1, hescape, hc1⟩ := readEscape_complete he heat
    cases fuel with
    | zero => omega
    | succ fuel =>
      have hshorter : c1.rest.length < fuel := by
        rw [hbackslash, List.length_cons, Text.utf8_append, List.append_assoc, List.length_append] at hfuel
        rw [hc1]
        omega
      obtain ⟨fuel', c', hread, hc', hfuel'⟩ := @ih fuel (ch :: taken) _ hc1 hshorter
      refine ⟨fuel', c', ?_, hc', hfuel'⟩
      rw [readStringFrom_backslash hbackslash, hescape, bind_ok, hread, List.reverse_cons, List.append_assoc,
        List.singleton_append]

/-- A string that stands for a text is read as that text. -/
theorem readString_complete {c : Cursor} {s body : Text} {rest : List UInt8} (hbody : Spells s body)
    (hc : c.rest = Text.utf8 (body ++ ['"']) ++ rest) : ∃ c', readString c = .ok (s, c') ∧ c'.rest = rest := by
  rw [Text.utf8_append, List.append_assoc] at hc
  obtain ⟨fuel, c1, hread, hc1, hfuel⟩ := @readStringFrom_complete _ _ hbody _ [] _ _ hc (Nat.lt_succ_self _)
  have hquote : c1.rest = 0x22 :: rest := hc1
  refine ⟨c1.eat, ?_, Cursor.rest_eat_of_rest hquote⟩
  cases fuel with
  | zero => omega
  | succ fuel =>
    simp only [readString, hread, readStringFrom_quote hquote, List.append_nil, List.reverse_reverse]

end PatternGrammar.Config
