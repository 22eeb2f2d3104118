import PatternGrammar.Config.ByteStream.Quotation
import PatternGrammar.Proofs.Config.ByteStream.Line

/-!
# Strings in streams

A cursor decodes the characters of a string where they stand; a stream gathers the bytes of the whole string and then
decodes these. The two find the same first byte that is no part of a character, because what an escape stands for never
continues a character, no more than the escape itself does.
-/

namespace PatternGrammar.Config

variable {α β : Type} {c c' : Cursor} {b : UInt8}

/-! ## Bytes of a string -/

theorem follows_unfinished {g : UInt8 → FromStream β} (hb : c.head? = none) :
    Follows (FromStream.takeInString >>= g) c (refuse (.endOfInput .string) c) := by
  have htake : Follows FromStream.takeInString c (refuse (.endOfInput .string) c) := by
    apply follows_take
    rw [hb, Cursor.eat_of_head?_none hb]
    exact follows_refuse _ c
  exact htake.stop

theorem takeInString_follows (hb : c.head? = some b) : Follows FromStream.takeInString c (.ok (b, c.eat)) := by
  apply follows_take
  rw [hb]
  exact follows_pure b c.eat

theorem follows_takeInString {g : UInt8 → FromStream β} {k : UInt8 → Except Failure (β × Cursor)}
    (hg : ∀ b, Follows (g b) c.eat (k b)) :
    Follows (FromStream.takeInString >>= g) c
      (match c.head? with
      | none => refuse (.endOfInput .string) c
      | some b => k b) := by
  cases hhead : c.head? with
  | none => exact follows_unfinished hhead
  | some b => exact (takeInString_follows hhead).after (hg b)

theorem passes_takeInString {g : UInt8 → FromStream Unit} {k : UInt8 → Except Failure Cursor}
    (hg : ∀ b, Passes (g b) c.eat (k b)) :
    Passes (FromStream.takeInString >>= g) c
      (match c.head? with
      | none => refuse (.endOfInput .string) c
      | some b => k b) := by
  cases hhead : c.head? with
  | none => exact follows_unfinished hhead
  | some b => exact (takeInString_follows hhead).after (hg b)

/-- Of some bytes that have to come, either all are taken or the input ends. -/
theorem takeManyInString_follows (n : Nat) (c : Cursor) :
    Follows (FromStream.takeManyInString n) c
      (if c.rest.length < n then refuse (.endOfInput .string) (c.eatMany c.rest.length)
      else .ok (c.rest.take n, c.eatMany n)) := by
  induction n generalizing c with
  | zero => exact follows_pure [] c
  | succ n ih =>
    rw [FromStream.takeManyInString]
    cases hhead : c.head? with
    | none =>
      rw [Cursor.rest_of_head?_none hhead, List.length_nil, if_pos (Nat.succ_pos n)]
      exact follows_unfinished hhead
    | some b =>
      apply (takeInString_follows hhead).after
      have hrest := Cursor.rest_eq_of_head? hhead
      have hmany := ih c.eat
      by_cases hshort : c.eat.rest.length < n
      · have hshort' : c.rest.length < n + 1 := by
          rw [hrest, List.length_cons]
          omega
        rw [if_pos hshort] at hmany
        rw [if_pos hshort', hrest]
        exact hmany.stop
      · have hshort' : ¬ c.rest.length < n + 1 := by
          rw [hrest, List.length_cons]
          omega
        rw [if_neg hshort] at hmany
        rw [if_neg hshort', hrest]
        exact hmany.after (follows_pure _ _)

/-! ## Escapes -/

theorem readFourDigits_follows (c : Cursor) : Follows FromStream.readFourDigits c (readFourDigits c) := by
  have hmany := takeManyInString_follows 4 c
  rw [FromStream.readFourDigits, readFourDigits]
  split
  next hshort =>
    rw [if_pos hshort] at hmany
    exact hmany.stop
  next hshort =>
    rw [if_neg hshort] at hmany
    apply hmany.after
    cases fourDigits? (c.rest.take 4) with
    | none => exact follows_refuse _ _
    | some n => exact follows_pure n _

theorem readPairByte_passes (b : UInt8) (c : Cursor) : Passes (FromStream.readPairByte b) c (readPairByte b c) := by
  rw [FromStream.readPairByte, readPairByte]
  apply passes_takeInString
  intro d
  split
  · exact passes_pure _
  · exact passes_refuse _ _

/-- A character by number is read from a stream as it is at a cursor. -/
theorem readNumberedChar_follows (c : Cursor) : Follows FromStream.readNumberedChar c (readNumberedChar c) := by
  rw [FromStream.readNumberedChar, readNumberedChar]
  apply (readFourDigits_follows c).bind
  intro n c1 _
  dsimp only
  split
  · exact follows_refuse _ c1
  split
  · exact follows_pure _ c1
  apply (readPairByte_passes 0x5C c1).bind
  intro c2 _
  apply (readPairByte_passes 0x75 c2).bind
  intro c3 _
  apply (readFourDigits_follows c3).bind
  intro m c4 _
  dsimp only
  split
  · exact follows_pure _ c4
  · exact follows_refuse _ c4

theorem readEscape_follows (c : Cursor) : Follows FromStream.readEscape c (readEscape c) := by
  rw [FromStream.readEscape, readEscape]
  apply follows_takeInString
  intro b
  split
  · exact readNumberedChar_follows c.eat
  · cases plainEscape? b with
    | none => exact follows_refuse _ _
    | some ch => exact follows_pure ch _

theorem skipEscape_passes (c : Cursor) : Passes FromStream.skipEscape c (skipEscape c) := by
  rw [FromStream.skipEscape, skipEscape]
  apply passes_takeInString
  intro b
  split
  · have hdigits := readFourDigits_follows c.eat
    cases hread : readFourDigits c.eat with
    | error e =>
      rw [hread] at hdigits
      exact hdigits.stop
    | ok y =>
      rw [hread] at hdigits
      exact hdigits.after (passes_pure y.2)
  split
  · exact passes_pure _
  · exact passes_refuse _ _

/-! ## Strings that are skipped -/

theorem skipStringFrom_passes (fuel : Nat) (c : Cursor) :
    Passes (FromStream.skipStringFrom fuel) c (skipStringFrom fuel c) := by
  induction fuel generalizing c with
  | zero => exact passes_refuse _ c
  | succ fuel ih =>
    rw [FromStream.skipStringFrom, skipStringFrom]
    apply passes_takeInString
    intro b
    split
    · exact passes_pure _
    split
    · apply Passes.andThen (skipEscape_passes c.eat)
      exact fun c' _ => ih c'
    split
    · exact passes_refuse_look _ c
    · exact ih c.eat

theorem skipString_passes (c : Cursor) : Passes FromStream.skipString c (skipString c) :=
  follows_left (g := fun n => FromStream.skipStringFrom (n + 1)) (skipStringFrom_passes _ c)

/-! ## What is gathered of a string -/

/-- What has been gathered of a string with some bytes still ahead: the bytes of characters and then, if there are wrong
bytes, all from the first of these on. They begin with no character, even together with what is ahead. -/
inductive Gathered (ahead : List UInt8) : Text → Option Nat → List UInt8 → Prop where
  | chars (t : Text) : Gathered ahead t none (Text.utf8 t)
  | wrong (t chars : Text) {wrong : List UInt8} : wrong ≠ [] → Text.firstChar? (wrong ++ ahead) = none →
      Gathered ahead chars (some wrong.length) (Text.utf8 t ++ wrong)

namespace Gathered

variable {ahead ahead' bytes : List UInt8} {t : Text} {since : Option Nat} {ch : Char}

theorem char (h : Gathered (String.utf8EncodeChar ch ++ ahead) t since bytes) :
    Gathered ahead (t ++ [ch]) (since.map (· + ch.utf8Size)) (bytes ++ String.utf8EncodeChar ch) := by
  cases h with
  | chars =>
    have hchars : Text.utf8 (t ++ [ch]) = Text.utf8 t ++ String.utf8EncodeChar ch := by
      rw [Text.utf8_append, Text.utf8_cons, Text.utf8_nil, List.append_nil]
    rw [← hchars]
    exact .chars _
  | @wrong t _ wrong hwrong hfirst =>
    rw [← List.append_assoc] at hfirst
    have hmore : wrong ++ String.utf8EncodeChar ch ≠ [] := by simp [hwrong]
    rw [Option.map_some, ← String.length_utf8EncodeChar, ← List.length_append, List.append_assoc]
    exact .wrong t _ hmore hfirst

/-- A byte that begins no character is the first wrong one, or is behind it. -/
theorem byte (h : Gathered (b :: ahead) t since bytes) (hb : Text.firstChar? (b :: ahead) = none) :
    Gathered ahead t (some (since.getD 0 + 1)) (bytes ++ [b]) := by
  cases h with
  | chars =>
    have hmore : [b] ≠ [] := by simp
    exact .wrong t t hmore hb
  | @wrong t _ wrong hwrong hfirst =>
    have hmore : wrong ++ [b] ≠ [] := by simp
    rw [List.append_cons] at hfirst
    have hlength : wrong.length + 1 = (wrong ++ [b]).length := by simp
    rw [Option.getD_some, hlength, List.append_assoc]
    exact .wrong t _ hmore hfirst

/-- Bytes that begin a character are not completed by others that do not continue one. -/
theorem cut (h : Gathered ahead t since bytes) (hahead : ∀ b, ahead'.head? = some b → ¬ Text.Continues b) :
    Gathered ahead' t since bytes := by
  cases h with
  | chars => exact .chars t
  | wrong t _ hwrong hfirst => exact .wrong t _ hwrong (Text.firstChar?_cut hwrong hfirst hahead)

theorem escape (h : Gathered ahead t since bytes) :
    Gathered ahead' (t ++ [ch]) (since.map (· + ch.utf8Size)) (bytes ++ String.utf8EncodeChar ch) := by
  apply (h.cut _).char
  intro b hb
  obtain ⟨first, more, hencode, hfirst, -⟩ := Text.exists_encode ch
  rw [hencode] at hb
  obtain rfl := Option.some.inj hb
  exact hfirst

theorem quote (h : Gathered ahead t since bytes) : Gathered [] t since bytes :=
  h.cut (by simp)

/-- The characters that are gathered are decoded, or as many bytes are left as have been counted. -/
theorem decode (h : Gathered [] t since bytes) :
    since = none ∧ Text.decode bytes = (t, []) ∨
      ∃ chars wrong, wrong ≠ [] ∧ since = some wrong.length ∧ Text.decode bytes = (chars, wrong) := by
  cases h with
  | chars =>
    have hnone : Text.firstChar? [] = none := rfl
    have hdecode := Text.decode_append t hnone
    rw [List.append_nil] at hdecode
    exact .inl ⟨rfl, hdecode⟩
  | @wrong before _ wrong hwrong hfirst =>
    rw [List.append_nil] at hfirst
    exact .inr ⟨before, wrong, hwrong, rfl, Text.decode_append before hfirst⟩

end Gathered

/-- A stream gathers the bytes of what is read at a cursor. -/
def Gathers (x : FromStream (List UInt8)) (c : Cursor) :
    Except Failure (List Char × Option Nat × Cursor) → Prop
  | .error e => Follows x c (.error e)
  | .ok (chars, since, c') => ∃ bytes, Follows x c (.ok (bytes, c')) ∧ Gathered [] chars since bytes

section Gathering

variable {read : Except Failure (List Char × Option Nat × Cursor)}

theorem Gathers.after {x : FromStream α} {g : α → FromStream (List UInt8)} {a : α} (hx : Follows x c (.ok (a, c')))
    (hg : Gathers (g a) c' read) : Gathers (x >>= g) c read := by
  cases read with
  | error e => exact Follows.after hx hg
  | ok y =>
    obtain ⟨bytes, hfollows, hgathered⟩ := hg
    exact ⟨bytes, hx.after hfollows, hgathered⟩

theorem Gathers.of_eq {x x' : FromStream (List UInt8)} (hx : x c.stream = x' c'.stream) (h : Gathers x' c' read) :
    Gathers x c read := by
  cases read with
  | error e => exact hx.trans h
  | ok y =>
    obtain ⟨bytes, hfollows, hgathered⟩ := h
    exact ⟨bytes, hx.trans hfollows, hgathered⟩

end Gathering

/-- Bytes that stand for themselves are gathered one by one. -/
theorem readStringFrom_bytes {piece rest : List UInt8} (hpiece : ∀ b ∈ piece, PlainByte b)
    (hc : c.rest = piece ++ rest) (steps : Nat) (taken : List UInt8) :
    FromStream.readStringFrom (steps + piece.length) taken c.stream =
      FromStream.readStringFrom steps (piece.reverse ++ taken) (c.eatMany piece.length).stream := by
  induction piece generalizing c taken with
  | nil => rfl
  | cons b piece ih =>
    rw [List.cons_append] at hc
    obtain ⟨hquote, hbackslash, hcontrol⟩ := hpiece b List.mem_cons_self
    have htake := takeInString_follows (Cursor.head?_of_rest hc)
    have hlater := ih (fun b hb => hpiece b (List.mem_cons_of_mem _ hb)) (Cursor.rest_eat_of_rest hc) (b :: taken)
    rw [List.length_cons, ← Nat.add_assoc, FromStream.readStringFrom, bind_of_ok htake]
    simp only [hquote, hbackslash, hcontrol, Bool.false_eq_true, if_false]
    rw [hlater, List.reverse_cons, List.append_assoc, List.singleton_append]
    rfl

/-- The first byte of a character has been taken, the others come next. -/
theorem gathers_char {ch : Char} {rest bytes : List UInt8} {steps : Nat}
    {read : Except Failure (Text × Option Nat × Cursor)} (hhead : c.head? = some b)
    (hc : c.rest = String.utf8EncodeChar ch ++ rest) (hb : PlainByte b) (hsteps : c.eat.rest.length < steps)
    (h : ∀ steps, rest.length < steps →
      Gathers (FromStream.readStringFrom steps (bytes ++ String.utf8EncodeChar ch).reverse) (c.eatMany ch.utf8Size)
        read) :
    Gathers (FromStream.readStringFrom steps (b :: bytes.reverse)) c.eat read := by
  have hplain := plainByte_of_head? hhead hc hb
  have hcons := (Cursor.rest_eq_of_head? hhead).symm.trans hc
  cases hch : String.utf8EncodeChar ch with
  | nil => exact absurd hch String.utf8EncodeChar_ne_nil
  | cons d more =>
  rw [hch, List.cons_append] at hcons
  obtain ⟨rfl, hmore⟩ := List.cons.inj hcons
  have hsize : ch.utf8Size = more.length + 1 := by rw [← String.length_utf8EncodeChar, hch, List.length_cons]
  have hlength : c.eat.rest.length = more.length + rest.length := by rw [hmore, List.length_append]
  obtain ⟨left, rfl⟩ : ∃ left, steps = left + more.length := ⟨steps - more.length, by omega⟩
  have hlater := h left (by omega)
  rw [hch, hsize, List.reverse_append, List.reverse_cons, List.append_assoc, List.singleton_append] at hlater
  have hbytes := readStringFrom_bytes (fun d hd => hplain d (hch ▸ List.mem_cons_of_mem b hd)) hmore left
    (b :: bytes.reverse)
  exact Gathers.of_eq hbytes hlater

theorem length_readEscape {ch : Char} (h : readEscape c = .ok (ch, c')) : c'.rest.length ≤ c.rest.length := by
  obtain ⟨e, -, hrest⟩ := readEscape_sound h
  rw [hrest, List.length_append]
  exact Nat.le_add_left _ _

/-- What a stream gathers up to the closing quote is what is decoded at the cursor. A step of the cursor takes a whole
character, so the two run on fuel of their own. -/
theorem readStringFrom_gathers {fuel steps : Nat} {taken : Text} {since : Option Nat} {c : Cursor} {bytes : List UInt8}
    (hfuel : c.rest.length < fuel) (hsteps : c.rest.length < steps) (h : Gathered c.rest taken.reverse since bytes) :
    Gathers (FromStream.readStringFrom steps bytes.reverse) c (readStringFrom fuel taken since c) := by
  induction fuel generalizing steps taken since c bytes with
  | zero => contradiction
  | succ fuel ih =>
  cases steps with
  | zero => contradiction
  | succ steps =>
  rw [FromStream.readStringFrom, readStringFrom]
  cases hhead : c.head? with
  | none => exact follows_unfinished hhead
  | some b =>
    have hrest := Cursor.rest_eq_of_head? hhead
    have heaten : c.rest.length = c.eat.rest.length + 1 := by rw [hrest, List.length_cons]
    apply Gathers.after (takeInString_follows hhead)
    dsimp only
    split
    · rw [hrest] at h
      rw [List.reverse_reverse]
      exact ⟨bytes, follows_pure bytes c.eat, h.quote⟩
    next hquote =>
    split
    · have hescape := readEscape_follows c.eat
      cases hread : readEscape c.eat with
      | error e =>
        rw [hread] at hescape
        exact hescape.stop
      | ok y =>
        have hshorter := length_readEscape hread
        rw [hread] at hescape
        apply Gathers.after hescape
        rw [← List.reverse_append]
        refine ih (by omega) (by omega) ?_
        rw [List.reverse_cons]
        exact h.escape
    next hbackslash =>
    split
    · exact follows_refuse _ c.eat
    next hcontrol =>
    have hb : PlainByte b := ⟨eq_false_of_ne_true hquote, eq_false_of_ne_true hbackslash, hcontrol⟩
    cases hfirst : Text.firstChar? c.rest with
    | none =>
      rw [hrest] at h hfirst
      have hshort : c.eat.rest.length < fuel ∧ c.eat.rest.length < steps := by omega
      have hgather := ih hshort.1 hshort.2 (h.byte hfirst)
      rw [List.reverse_append] at hgather
      exact hgather
    | some first =>
      obtain ⟨ch, n⟩ := first
      obtain ⟨rest, hbytes, rfl⟩ := Text.encode_of_firstChar? hfirst
      have hafter : (c.eatMany ch.utf8Size).rest = rest := by
        rw [Cursor.rest_eatMany, hbytes, ← String.length_utf8EncodeChar, List.drop_left]
      have hlength : c.rest.length = ch.utf8Size + rest.length := by
        rw [hbytes, List.length_append, String.length_utf8EncodeChar]
      have hpos := ch.utf8Size_pos
      rw [hbytes] at h
      have hchar := h.char
      rw [← List.reverse_cons, ← hafter] at hchar
      have hshort : (c.eatMany ch.utf8Size).rest.length < fuel := by
        rw [hafter]
        omega
      apply gathers_char hhead hbytes hb (by omega)
      intro left hleft
      exact ih hshort (hafter ▸ hleft) hchar

/-! ## The place of the first wrong byte -/

/-- Where a cursor stands on the way to the first wrong byte, a stream goes back from behind the closing quote. -/
theorem follows_refuseBack {count n : Nat} (cause : Cause) (halong : c.Along n c') (hcount : count < n) :
    (FromStream.refuseBack cause count : FromStream α) c'.stream =
      inStream (refuse cause (c.eatMany (c.rest.length - c'.rest.length - count))) := by
  have hend := halong.place (Nat.zero_lt_of_lt hcount) (Nat.le_refl n)
  have hwrong := halong.place (Nat.sub_pos_of_lt hcount) (Nat.sub_le n count)
  have hconsumed : c.rest.length - c'.rest.length = n := by
    rw [halong.length, Nat.add_sub_cancel]
  show Except.error _ = Except.error _
  rw [Cursor.place_file, hconsumed, hwrong, ← halong.eatMany, hend, Nat.add_sub_assoc (Nat.le_of_lt hcount)]

/-- A string is read from a stream, byte by byte and then decoded, as it is at a cursor, character by character. -/
theorem readString_follows (c : Cursor) : Follows FromStream.readString c (readString c) := by
  have hnothing : Gathered c.rest ([] : Text).reverse none [] := .chars []
  have hgathers := readStringFrom_gathers (Nat.lt_succ_self c.rest.length) (Nat.lt_succ_self _) hnothing
  apply follows_left (g := fun n => FromStream.readStringFrom (n + 1) [] >>= fun bytes =>
    if (Text.decode bytes).2.isEmpty then pure (Text.decode bytes).1
    else FromStream.refuseBack .invalidCharacter (Text.decode bytes).2.length)
  rw [readString]
  cases hread : readStringFrom (c.rest.length + 1) [] none c with
  | error e =>
    rw [hread] at hgathers
    exact Follows.stop hgathers
  | ok y =>
    obtain ⟨chars, since, after⟩ := y
    rw [hread] at hgathers
    obtain ⟨bytes, hfollows, hgathered⟩ := hgathers
    apply hfollows.after
    obtain ⟨rfl, hdecode⟩ | ⟨found, wrong, hwrong, rfl, hdecode⟩ := hgathered.decode
    · rw [hdecode]
      exact follows_pure chars after
    · obtain ⟨n, halong, hcount⟩ := readStringFrom_along hread
      rw [Option.getD_some, Option.getD_none, Nat.zero_add] at hcount
      rw [hdecode, if_neg (by simp [hwrong])]
      exact follows_refuseBack .invalidCharacter halong hcount

end PatternGrammar.Config
