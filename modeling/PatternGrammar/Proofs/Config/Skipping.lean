import PatternGrammar.Proofs.Config.Number
import PatternGrammar.Proofs.Config.Quotation

/-!
# Skipped values

What is skipped is a value of the grammar, nested to any depth, and each value is skipped. The walk keeps its open
brackets in a list; a value inside them is skipped when the walk goes on behind it with the same brackets open.
-/

namespace PatternGrammar.Config

open Json (Blanks Body Key Lead Scalar Value Items)

/-! ## Keys -/

/-- What is skipped as a key is one, with its colon. -/
theorem skipKey_sound {c c' : Cursor} (hc : c.Readable) (h : skipKey c = .ok c') :
    ∃ key, Key Body key ∧ c.rest = Text.utf8 key ++ c'.rest := by
  simp only [skipKey] at h
  split at h
  · contradiction
  next b hb =>
  split at h
  · next hquote =>
    obtain rfl : b = 0x22 := eq_of_beq hquote
    split at h
    · contradiction
    next c1 hskip =>
    obtain ⟨before, hbefore, hfirst⟩ := rest_of_head?_skipBlanks hb
    have hopened : c.rest = Text.utf8 (before ++ ['"']) ++ (skipBlanks c).eat.rest := pieces_append hfirst rfl
    obtain ⟨body, hbody, hclosed⟩ := skipString_sound (hc.after hopened) hskip
    obtain ⟨after, hafter, hcolon⟩ := readColon_sound h
    refine ⟨before ++ '"' :: (body ++ '"' :: (after ++ [':'])), ⟨before, body, after, hbefore, hbody, hafter, rfl⟩, ?_⟩
    have hall := pieces_append hopened (pieces_append hclosed hcolon)
    simpa using hall
  · contradiction

/-- The cursor behind the opening quote of a key. -/
theorem rest_of_faces_key {body : Text → Prop} {c : Cursor} {key : Text} {rest : List UInt8} (hkey : Key body key)
    (hc : c.Faces (Text.utf8 key ++ rest)) :
    ∃ inner after, body inner ∧ Blanks after ∧ (skipBlanks c).head? = some 0x22 ∧
      (skipBlanks c).eat.rest = Text.utf8 (inner ++ ['"']) ++ (Text.utf8 (after ++ [':']) ++ rest) := by
  obtain ⟨before, inner, after, hbefore, hinner, hafter, rfl⟩ := hkey
  rw [Text.utf8_append, List.append_assoc, Cursor.faces_blanks hbefore] at hc
  have hquote : c.Faces (0x22 :: (Text.utf8 (inner ++ '"' :: (after ++ [':'])) ++ rest)) := hc
  have hskip := Cursor.rest_of_faces hquote (by decide)
  refine ⟨inner, after, hinner, hafter, Cursor.head?_of_rest hskip, ?_⟩
  rw [Cursor.rest_eat_of_rest hskip, ← List.append_assoc, ← Text.utf8_append, List.append_assoc]
  rfl

theorem skipKey_complete {c : Cursor} {key : Text} {rest : List UInt8} (hkey : Key Body key)
    (hc : c.Faces (Text.utf8 key ++ rest)) : ∃ c', skipKey c = .ok c' ∧ c'.rest = rest := by
  obtain ⟨body, after, hbody, hafter, hhead, hbytes⟩ := rest_of_faces_key hkey hc
  obtain ⟨c1, hstring, hc1⟩ := skipString_complete hbody hbytes
  obtain ⟨c2, hcolon, hc2⟩ := readColon_complete hafter hc1
  refine ⟨c2, ?_, hc2⟩
  simp only [skipKey, hhead, beq_self_eq_true, if_true, hstring, hcolon]

/-- What is skipped in front of a value is what may stand there. -/
theorem skipToValue_sound {bracket : Bracket} {c c' : Cursor} (hc : c.Readable)
    (h : skipToValue bracket c = .ok c') : ∃ lead, Lead bracket lead ∧ c.rest = Text.utf8 lead ++ c'.rest := by
  cases bracket with
  | list =>
    obtain rfl := Except.ok.inj h
    exact ⟨[], rfl, rfl⟩
  | object => exact skipKey_sound hc h

theorem skipToValue_complete {bracket : Bracket} {c : Cursor} {lead : Text} {rest : List UInt8}
    (hlead : Lead bracket lead) (hc : c.Faces (Text.utf8 lead ++ rest)) :
    ∃ c', skipToValue bracket c = .ok c' ∧ c'.Faces rest := by
  cases bracket with
  | list =>
    obtain rfl : lead = [] := hlead
    exact ⟨c, rfl, hc⟩
  | object =>
    obtain ⟨c', hskip, hc'⟩ := skipKey_complete hlead hc
    exact ⟨c', hskip, Cursor.faces_of_rest hc'⟩

/-! ## Values without brackets -/

/-- What is skipped as a value other than a list or object is one. -/
theorem skipScalar_sound {b : UInt8} {c c' : Cursor} (hc : c.Readable) (hhead : c.head? = some b)
    (h : skipScalar b c = .ok c') : ∃ value, Scalar value ∧ c.rest = Text.utf8 value ++ c'.rest := by
  have hrest := Cursor.rest_eq_of_head? hhead
  unfold skipScalar at h
  split at h
  · next hn =>
    obtain rfl : b = 0x6E := eq_of_beq hn
    rw [readWord_sound h] at hrest
    exact ⟨_, .null, hrest⟩
  split at h
  · next ht =>
    obtain rfl : b = 0x74 := eq_of_beq ht
    rw [readWord_sound h] at hrest
    exact ⟨_, .true, hrest⟩
  split at h
  · next hf =>
    obtain rfl : b = 0x66 := eq_of_beq hf
    rw [readWord_sound h] at hrest
    exact ⟨_, .false, hrest⟩
  split at h
  · next hminus =>
    obtain rfl : b = 0x2D := eq_of_beq hminus
    obtain ⟨t, ht, hpiece⟩ := skipNumber_sound h
    exact ⟨'-' :: t, .number (.negative ht), pieces_append (p := ['-']) hrest hpiece⟩
  split at h
  · obtain ⟨t, ht, hpiece⟩ := skipNumber_sound h
    exact ⟨t, .number (.positive ht), hpiece⟩
  split at h
  · next hquote =>
    obtain rfl : b = 0x22 := eq_of_beq hquote
    have hopened : c.rest = Text.utf8 ['"'] ++ c.eat.rest := hrest
    obtain ⟨t, ht, hpiece⟩ := skipString_sound (hc.after hopened) h
    exact ⟨'"' :: (t ++ ['"']), .string ht, pieces_append hopened hpiece⟩
  · contradiction

theorem skipScalar_complete {c : Cursor} {value : Text} {rest : List UInt8} (hvalue : Scalar value)
    (hc : c.rest = Text.utf8 value ++ rest) (hrest : NumberEnds rest) :
    ∃ b c', c.head? = some b ∧ opening? b = none ∧ skipScalar b c = .ok c' ∧ c'.rest = rest := by
  cases hvalue with
  | null =>
    have hword : c.rest = 0x6E :: (nullRest ++ rest) := hc
    obtain ⟨c', hread, hc'⟩ := readWord_complete (Cursor.rest_eat_of_rest hword)
    exact ⟨0x6E, c', Cursor.head?_of_rest hword, rfl, hread, hc'⟩
  | true =>
    have hword : c.rest = 0x74 :: (trueRest ++ rest) := hc
    obtain ⟨c', hread, hc'⟩ := readWord_complete (Cursor.rest_eat_of_rest hword)
    exact ⟨0x74, c', Cursor.head?_of_rest hword, rfl, hread, hc'⟩
  | false =>
    have hword : c.rest = 0x66 :: (falseRest ++ rest) := hc
    obtain ⟨c', hread, hc'⟩ := readWord_complete (Cursor.rest_eat_of_rest hword)
    exact ⟨0x66, c', Cursor.head?_of_rest hword, rfl, hread, hc'⟩
  | number hnumber =>
    cases hnumber with
    | positive hunsigned =>
      obtain ⟨b, bytes, hbytes, hb⟩ := exists_digit_of_unsigned hunsigned
      have hhead : c.head? = some b := by
        rw [Cursor.head?, hc, hbytes]
        rfl
      have hne : ∀ x, isDigit x = false → (b == x) = false := fun x hx => beq_of_isDigit hb hx
      obtain ⟨c', hskip, hc'⟩ := skipNumber_complete hunsigned hc hrest
      -- a digit is none of the bytes that are looked for before it
      refine ⟨b, c', hhead, ?_, ?_, hc'⟩
      · rw [opening?, hne 0x5B (by decide), hne 0x7B (by decide)]
        rfl
      · rw [skipScalar, hne 0x6E (by decide), hne 0x74 (by decide), hne 0x66 (by decide), hne 0x2D (by decide), hb]
        exact hskip
    | @negative t hunsigned =>
      have hminus : c.rest = 0x2D :: (Text.utf8 t ++ rest) := hc
      obtain ⟨c', hskip, hc'⟩ := skipNumber_complete hunsigned (Cursor.rest_eat_of_rest hminus) hrest
      exact ⟨0x2D, c', Cursor.head?_of_rest hminus, rfl, hskip, hc'⟩
  | @string t hbody =>
    have hquote : c.rest = 0x22 :: (Text.utf8 (t ++ ['"']) ++ rest) := hc
    obtain ⟨c', hskip, hc'⟩ := skipString_complete hbody (Cursor.rest_eat_of_rest hquote)
    exact ⟨0x22, c', Cursor.head?_of_rest hquote, rfl, hskip, hc'⟩

/-- A byte that is neither white space nor a closing bracket. -/
def StartsValue (b : UInt8) : Prop :=
  isBlank b = false ∧ ∀ bracket : Bracket, (b == bracket.closing) = false

theorem startsValue_of_isDigit {b : UInt8} (hb : isDigit b = true) : StartsValue b := by
  have hne : ∀ x, isDigit x = false → (b == x) = false := fun x hx => beq_of_isDigit hb hx
  constructor
  · rw [isBlank, hne 0x20 (by decide), hne 0x0A (by decide), hne 0x09 (by decide), hne 0x0D (by decide)]
    rfl
  · rintro (_ | _)
    · exact hne 0x5D (by decide)
    · exact hne 0x7D (by decide)

instance (b : UInt8) : Decidable (StartsValue b) :=
  decidable_of_iff (isBlank b = false ∧ (b == Bracket.list.closing) = false ∧ (b == Bracket.object.closing) = false)
    ⟨fun ⟨hblank, hlist, hobject⟩ => ⟨hblank, fun | .list => hlist | .object => hobject⟩,
      fun ⟨hblank, hclosing⟩ => ⟨hblank, hclosing .list, hclosing .object⟩⟩

/-- The first byte of a value. -/
theorem exists_startsValue {value : Text} (hvalue : Value value) :
    ∃ b bytes, Text.utf8 value = b :: bytes ∧ StartsValue b := by
  cases hvalue with
  | scalar hscalar =>
    cases hscalar with
    | null => exact ⟨0x6E, nullRest, rfl, by decide⟩
    | true => exact ⟨0x74, trueRest, rfl, by decide⟩
    | false => exact ⟨0x66, falseRest, rfl, by decide⟩
    | number hnumber =>
      cases hnumber with
      | positive hunsigned =>
        obtain ⟨b, bytes, hbytes, hb⟩ := exists_digit_of_unsigned hunsigned
        exact ⟨b, bytes, hbytes, startsValue_of_isDigit hb⟩
      | negative => exact ⟨0x2D, _, rfl, by decide⟩
    | string => exact ⟨0x22, _, rfl, by decide⟩
  | empty bracket => cases bracket <;> exact ⟨_, _, rfl, by decide⟩
  | filled bracket => cases bracket <;> exact ⟨_, _, rfl, by decide⟩

/-! ## Values inside brackets -/

/-! ### What is skipped is a value -/

/-- Where skipping a value succeeds, a value has been skipped. -/
def ValueSound (fuel : Nat) : Prop :=
  ∀ ⦃outer : List Bracket⦄ ⦃c c' : Cursor⦄, c.Readable → skipFrom fuel false outer c = .ok c' →
    ∃ fuel' after blanks value, fuel' < fuel ∧ Blanks blanks ∧ Value value ∧
      c.rest = Text.utf8 (blanks ++ value) ++ after.rest ∧ skipFrom fuel' true outer after = .ok c'

/-- Where skipping a value inside brackets succeeds, all that is left inside them has been skipped. -/
def ItemsSound (fuel : Nat) : Prop :=
  ∀ ⦃bracket : Bracket⦄ ⦃outer : List Bracket⦄ ⦃c c' : Cursor⦄, c.Readable →
    skipFrom fuel false (bracket :: outer) c = .ok c' →
    ∃ fuel' after items, fuel' < fuel ∧ (∀ lead, Lead bracket lead → Items bracket (lead ++ items)) ∧
      c.rest = Text.utf8 (items ++ [Json.closing bracket]) ++ after.rest ∧ skipFrom fuel' true outer after = .ok c'

/-- The byte that closes a bracket. -/
theorem utf8_closing (bracket : Bracket) : Text.utf8 [Json.closing bracket] = [bracket.closing] := by
  cases bracket <;> rfl

theorem utf8_comma (t : Text) : Text.utf8 (',' :: t) = 0x2C :: Text.utf8 t := rfl

theorem utf8_opening (bracket : Bracket) :
    ∃ b, Text.utf8 [Json.opening bracket] = [b] ∧ opening? b = some bracket ∧ isBlank b = false := by
  cases bracket
  · exact ⟨0x5B, rfl, rfl, rfl⟩
  · exact ⟨0x7B, rfl, rfl, rfl⟩

theorem opening?_eq_some {b : UInt8} {bracket : Bracket} (h : opening? b = some bracket) :
    [b] = Text.utf8 [Json.opening bracket] := by
  unfold opening? at h
  split at h
  · next hlist =>
    obtain rfl := Option.some.inj h
    rw [eq_of_beq hlist]
    rfl
  split at h
  · next hobject =>
    obtain rfl := Option.some.inj h
    rw [eq_of_beq hobject]
    rfl
  · contradiction

theorem blanks_append {s t : Text} (hs : Blanks s) (ht : Blanks t) : Blanks (s ++ t) := by
  intro ch hch
  rcases List.mem_append.mp hch with hch | hch
  · exact hs ch hch
  · exact ht ch hch

/-- White space in front of a value may be counted to what stands before it inside the bracket. -/
theorem lead_blanks {bracket : Bracket} {blanks lead before : Text} (hblanks : Blanks blanks)
    (hlead : Lead bracket lead) (hbefore : Blanks before) :
    ∃ lead' before', Lead bracket lead' ∧ Blanks before' ∧ blanks ++ (lead ++ before) = lead' ++ before' := by
  cases bracket with
  | list =>
    obtain rfl : lead = [] := hlead
    exact ⟨[], blanks ++ before, rfl, blanks_append hblanks hbefore, rfl⟩
  | object =>
    obtain ⟨front, body, after, hfront, hbody, hafter, rfl⟩ := hlead
    refine ⟨blanks ++ front ++ '"' :: (body ++ '"' :: (after ++ [':'])), before,
      ⟨_, body, after, blanks_append hblanks hfront, hbody, hafter, rfl⟩, hbefore, ?_⟩
    simp

/-- White space in front of the first of some values belongs to it. -/
theorem items_blanks {bracket : Bracket} {blanks items : Text} (hblanks : Blanks blanks)
    (hitems : Items bracket items) : Items bracket (blanks ++ items) := by
  cases hitems with
  | last hlead hbefore hvalue hafter =>
    obtain ⟨lead', before', hlead', hbefore', heq⟩ := lead_blanks hblanks hlead hbefore
    have hall := Items.last hlead' hbefore' hvalue hafter
    simpa [← List.append_assoc, ← heq] using hall
  | more hlead hbefore hvalue hafter hitems =>
    obtain ⟨lead', before', hlead', hbefore', heq⟩ := lead_blanks hblanks hlead hbefore
    have hall := Items.more hlead' hbefore' hvalue hafter hitems
    simpa [← List.append_assoc, ← heq] using hall

/-- Items are skipped one by one: a value, and what comes behind it. -/
theorem itemsSound {fuel : Nat} (hvalue : ValueSound fuel) (ih : ∀ fuel' < fuel, ItemsSound fuel') :
    ItemsSound fuel := by
  intro bracket outer c c' hc h
  obtain ⟨fuel1, c1, before, value, hfuel1, hbefore, hvalue, hpiece, h⟩ := hvalue hc h
  have hc1 := hc.after hpiece
  cases fuel1 with
  | zero => contradiction
  | succ fuel1 =>
    simp only [skipFrom] at h
    split at h
    · contradiction
    next b hhead =>
    obtain ⟨after, hafter, hblanks⟩ := rest_of_head?_skipBlanks hhead
    split at h
    · -- this value is the last one
      next hclosing =>
      obtain rfl : b = bracket.closing := eq_of_beq hclosing
      have hclose : bracket.closing :: (skipBlanks c1).eat.rest =
          Text.utf8 [Json.closing bracket] ++ (skipBlanks c1).eat.rest := by
        rw [utf8_closing]
        rfl
      refine ⟨fuel1, (skipBlanks c1).eat, before ++ value ++ after, by omega,
        fun lead hlead => .last hlead hbefore hvalue hafter, ?_, h⟩
      rw [List.append_assoc (before ++ value)]
      exact pieces_append hpiece (pieces_append hblanks hclose)
    split at h
    · next hcomma =>
      obtain rfl : b = 0x2C := eq_of_beq hcomma
      split at h
      · contradiction
      next c2 hto =>
      have hcommaPiece : c1.rest = Text.utf8 (after ++ [',']) ++ (skipBlanks c1).eat.rest :=
        pieces_append hblanks rfl
      have hc2 := hc1.after hcommaPiece
      obtain ⟨lead, hlead, hleadPiece⟩ := skipToValue_sound hc2 hto
      -- what is left inside the brackets begins with a key again
      obtain ⟨fuel2, c3, items, hfuel2, hitems, hrest, h⟩ := ih fuel1 (by omega) (hc2.after hleadPiece) h
      refine ⟨fuel2, c3, before ++ value ++ after ++ ',' :: (lead ++ items), by omega, ?_, ?_, h⟩
      · intro lead' hlead'
        rw [← List.append_assoc]
        exact .more hlead' hbefore hvalue hafter (hitems lead hlead)
      · have hall := pieces_append hpiece (pieces_append hcommaPiece (pieces_append hleadPiece hrest))
        simpa using hall
    · contradiction

/-- A value is skipped as a scalar, or as a bracket with items. -/
theorem valueSound {fuel : Nat} (ih : ∀ fuel' < fuel, ItemsSound fuel') : ValueSound fuel := by
  intro outer c c' hc h
  cases fuel with
  | zero => contradiction
  | succ fuel =>
    simp only [skipFrom] at h
    split at h
    · contradiction
    next b hhead =>
    obtain ⟨blanks, hblanks, hpiece⟩ := skipBlanks_sound c
    have hc0 := hc.after hpiece
    split at h
    · -- a value without brackets
      split at h
      · contradiction
      next c1 hskip =>
      obtain ⟨value, hvalue, hrest⟩ := skipScalar_sound hc0 hhead hskip
      exact ⟨fuel, c1, blanks, value, Nat.lt_succ_self _, hblanks, .scalar hvalue, pieces_append hpiece hrest, h⟩
    next bracket hbracket =>
    have hopen : (skipBlanks c).rest = Text.utf8 [Json.opening bracket] ++ (skipBlanks c).eat.rest := by
      rw [← opening?_eq_some hbracket]
      exact Cursor.rest_eq_of_head? hhead
    have hc1 := hc0.after hopen
    split at h
    · contradiction
    next b' hhead' =>
    obtain ⟨inner, hinner, hinnerPiece⟩ := skipBlanks_sound (skipBlanks c).eat
    have hc2 := hc1.after hinnerPiece
    split at h
    · -- empty brackets
      next hclosing =>
      obtain rfl : b' = bracket.closing := eq_of_beq hclosing
      have hclose : (skipBlanks (skipBlanks c).eat).rest =
          Text.utf8 [Json.closing bracket] ++ (skipBlanks (skipBlanks c).eat).eat.rest := by
        rw [utf8_closing]
        exact Cursor.rest_eq_of_head? hhead'
      exact ⟨fuel, _, blanks, _, Nat.lt_succ_self _, hblanks, .empty bracket hinner,
        pieces_append hpiece (pieces_append hopen (pieces_append hinnerPiece hclose)), h⟩
    · -- brackets with something inside
      split at h
      · contradiction
      next c3 hto =>
      obtain ⟨lead, hlead, hleadPiece⟩ := skipToValue_sound hc2 hto
      obtain ⟨fuel2, c4, items, hfuel2, hitems, hrest, h⟩ := ih fuel (Nat.lt_succ_self _) (hc2.after hleadPiece) h
      refine ⟨fuel2, c4, blanks, _, by omega, hblanks, .filled bracket (items_blanks hinner (hitems lead hlead)), ?_, h⟩
      have hall := pieces_append hpiece (pieces_append hopen (pieces_append hinnerPiece
        (pieces_append hleadPiece hrest)))
      simpa using hall

/-- Walking on inside brackets skips only what may stand there, by induction on the steps. -/
theorem skipFrom_sound (fuel : Nat) : ValueSound fuel ∧ ItemsSound fuel := by
  induction fuel using Nat.strongRecOn with
  | ind fuel ih =>
    have hvalue : ValueSound fuel := valueSound fun fuel' hlt => (ih fuel' hlt).2
    exact ⟨hvalue, itemsSound hvalue fun fuel' hlt => (ih fuel' hlt).2⟩

/-- What has been skipped is a value with white space in front. -/
theorem skipValue_sound {c c' : Cursor} (hc : c.Readable) (h : skipValue c = .ok c') :
    ∃ blanks value, Blanks blanks ∧ Value value ∧ c.rest = Text.utf8 (blanks ++ value) ++ c'.rest := by
  obtain ⟨fuel, after, blanks, value, -, hblanks, hvalue, hpiece, h⟩ := (skipFrom_sound _).1 hc h
  refine ⟨blanks, value, hblanks, hvalue, ?_⟩
  cases fuel with
  | zero => contradiction
  | succ fuel =>
    obtain rfl : after = c' := Except.ok.inj h
    exact hpiece

/-! ### Every value is skipped -/

theorem numberEnds_blanks {blanks : Text} {b : UInt8} {rest : List UInt8} (hblanks : Blanks blanks)
    (hb : isDigit b = false ∧ (b == 0x2E) = false ∧ isExponentMark b = false) :
    NumberEnds (Text.utf8 blanks ++ b :: rest) := by
  intro x hx
  cases blanks with
  | nil =>
    obtain rfl : b = x := Option.some.inj hx
    exact hb
  | cons ch blanks =>
    have hch := hblanks ch List.mem_cons_self
    rw [Text.utf8_cons, Text.encode_small (isBlank_byteOf hch).1] at hx
    obtain rfl : Text.byteOf ch = x := Option.some.inj hx
    simp only [List.mem_cons, List.not_mem_nil, or_false] at hch
    obtain rfl | rfl | rfl | rfl := hch <;> decide

/-- Before some value inside brackets the walk goes on behind it with the same brackets open. -/
def ValueComplete (value : Text) : Prop :=
  ∀ ⦃fuel : Nat⦄ ⦃outer : List Bracket⦄ ⦃c : Cursor⦄ ⦃rest : List UInt8⦄, c.Faces (Text.utf8 value ++ rest) →
    NumberEnds rest → (Text.utf8 value ++ rest).length < fuel →
    ∃ fuel' after, skipFrom fuel false outer c = skipFrom fuel' true outer after ∧ after.rest = rest ∧
      rest.length < fuel'

/-- Before all that is left inside brackets the walk goes on behind them. -/
def ItemsComplete (bracket : Bracket) (items : Text) : Prop :=
  ∀ ⦃fuel : Nat⦄ ⦃outer : List Bracket⦄ ⦃c : Cursor⦄ ⦃rest : List UInt8⦄,
    c.Faces (Text.utf8 (items ++ [Json.closing bracket]) ++ rest) →
    (Text.utf8 (items ++ [Json.closing bracket]) ++ rest).length < fuel →
    ∃ first fuel' after, skipToValue bracket c = .ok first ∧
      skipFrom fuel false (bracket :: outer) first = skipFrom fuel' true outer after ∧ after.rest = rest ∧
      rest.length < fuel'

/-- A value starts with a byte that is no white space. -/
theorem rest_of_faces_value {c : Cursor} {value : Text} {rest : List UInt8} (hvalue : Value value)
    (hc : c.Faces (Text.utf8 value ++ rest)) : (skipBlanks c).rest = Text.utf8 value ++ rest := by
  obtain ⟨b, bytes, hbytes, hb⟩ := exists_startsValue hvalue
  rw [hbytes] at hc ⊢
  exact Cursor.rest_of_faces hc hb.1

theorem length_lt_of_value {value : Text} (rest : List UInt8) (hvalue : Value value) :
    rest.length < (Text.utf8 value ++ rest).length := by
  obtain ⟨b, bytes, hbytes, -⟩ := exists_startsValue hvalue
  rw [hbytes, List.length_append, List.length_cons]
  omega

theorem scalar_complete {value : Text} (hvalue : Scalar value) : ValueComplete value := by
  intro fuel outer c rest hc hrest hfuel
  have hskip := rest_of_faces_value (.scalar hvalue) hc
  obtain ⟨b, c', hhead, hopening, hscalar, hc'⟩ := skipScalar_complete hvalue hskip hrest
  have hshorter : rest.length < (Text.utf8 value ++ rest).length := length_lt_of_value rest (.scalar hvalue)
  cases fuel with
  | zero => omega
  | succ fuel =>
    refine ⟨fuel, c', ?_, hc', by omega⟩
    simp only [skipFrom, hhead, hopening, hscalar]

/-- The cursor behind an opening bracket. -/
theorem opened {bracket : Bracket} {c : Cursor} {inner : Text} {rest : List UInt8}
    (hc : c.Faces (Text.utf8 (Json.opening bracket :: inner) ++ rest)) :
    ∃ b, (skipBlanks c).head? = some b ∧ opening? b = some bracket ∧
      (skipBlanks c).eat.rest = Text.utf8 inner ++ rest := by
  obtain ⟨b, hbyte, hopening, hblank⟩ := utf8_opening bracket
  have hbytes : c.Faces (b :: (Text.utf8 inner ++ rest)) := by
    have hsplit : Text.utf8 (Json.opening bracket :: inner) = Text.utf8 [Json.opening bracket] ++ Text.utf8 inner :=
      Text.utf8_append [Json.opening bracket] inner
    rw [hsplit, hbyte] at hc
    exact hc
  have hskip := Cursor.rest_of_faces hbytes hblank
  exact ⟨b, Cursor.head?_of_rest hskip, hopening, Cursor.rest_eat_of_rest hskip⟩

/-- The cursor before a closing bracket. -/
theorem closed {bracket : Bracket} {c : Cursor} {blanks : Text} {rest : List UInt8} (hblanks : Blanks blanks)
    (hc : c.Faces (Text.utf8 (blanks ++ [Json.closing bracket]) ++ rest)) :
    (skipBlanks c).rest = bracket.closing :: rest := by
  rw [Text.utf8_append, List.append_assoc, Cursor.faces_blanks hblanks, utf8_closing] at hc
  have hblank : isBlank bracket.closing = false := by cases bracket <;> rfl
  exact Cursor.rest_of_faces hc hblank

theorem empty_complete (bracket : Bracket) {blanks : Text} (hblanks : Blanks blanks) :
    ValueComplete (Json.opening bracket :: (blanks ++ [Json.closing bracket])) := by
  intro fuel outer c rest hc hrest hfuel
  obtain ⟨b, hhead, hopening, hinner⟩ := opened hc
  have hclosed := closed hblanks (Cursor.faces_of_rest hinner)
  have hshorter := length_lt_of_value rest (.empty bracket hblanks)
  cases fuel with
  | zero => omega
  | succ fuel =>
    refine ⟨fuel, (skipBlanks (skipBlanks c).eat).eat, ?_, Cursor.rest_eat_of_rest hclosed, by omega⟩
    simp only [skipFrom, hhead, hopening, Cursor.head?_of_rest hclosed, beq_self_eq_true, if_true]

/-- After white space, what stands inside brackets begins with a byte that does not close them. -/
theorem exists_startsValue_items {bracket : Bracket} {items : Text} (hitems : Items bracket items) (more : List UInt8) :
    ∃ b bytes, (Text.utf8 items ++ more).dropWhile isBlank = b :: bytes ∧ StartsValue b := by
  have hfirst : ∃ lead before value tail, Lead bracket lead ∧ Blanks before ∧ Value value ∧
      items = lead ++ (before ++ (value ++ tail)) := by
    cases hitems with
    | last hlead hbefore hvalue hafter =>
      exact ⟨_, _, _, _, hlead, hbefore, hvalue, by rw [List.append_assoc]⟩
    | more hlead hbefore hvalue hafter hitems =>
      exact ⟨_, _, _, _, hlead, hbefore, hvalue, by simp only [List.append_assoc]; rfl⟩
  obtain ⟨lead, before, value, tail, hlead, hbefore, hvalue, rfl⟩ := hfirst
  cases bracket with
  | list =>
    obtain rfl : lead = [] := hlead
    obtain ⟨b, bytes, hbytes, hb⟩ := exists_startsValue hvalue
    rw [List.nil_append, Text.utf8_append, List.append_assoc, dropWhile_blanks hbefore, Text.utf8_append, hbytes,
      List.cons_append, List.cons_append, List.dropWhile_cons_of_neg (by simp [hb.1])]
    exact ⟨b, _, rfl, hb⟩
  | object =>
    obtain ⟨front, body, after, hfront, -, -, rfl⟩ := hlead
    rw [List.append_assoc, Text.utf8_append, List.append_assoc, dropWhile_blanks hfront]
    exact ⟨0x22, _, rfl, by decide⟩

/-- A bracket around items is opened, walked through and closed. -/
theorem filled_complete {bracket : Bracket} {items : Text} (hitems : Items bracket items)
    (hcomplete : ItemsComplete bracket items) :
    ValueComplete (Json.opening bracket :: (items ++ [Json.closing bracket])) := by
  intro fuel outer c rest hc hrest hfuel
  obtain ⟨b, hhead, hopening, hinner⟩ := opened hc
  have hfaces := Cursor.faces_skipBlanks (Cursor.faces_of_rest hinner)
  have hhead' : ∃ b', (skipBlanks (skipBlanks c).eat).head? = some b' ∧ StartsValue b' := by
    obtain ⟨b', bytes, hbytes, hb'⟩ := exists_startsValue_items hitems (Text.utf8 [Json.closing bracket] ++ rest)
    refine ⟨b', ?_, hb'⟩
    rw [Cursor.head?, rest_skipBlanks, hinner, Text.utf8_append, List.append_assoc, hbytes, List.head?_cons]
  obtain ⟨b', hhead', hb'⟩ := hhead'
  cases fuel with
  | zero => omega
  | succ fuel =>
    have hshorter : (Text.utf8 (items ++ [Json.closing bracket]) ++ rest).length < fuel := by
      have hsplit : Text.utf8 (Json.opening bracket :: (items ++ [Json.closing bracket])) =
          Text.utf8 [Json.opening bracket] ++ Text.utf8 (items ++ [Json.closing bracket]) :=
        Text.utf8_append [Json.opening bracket] _
      obtain ⟨b, hbyte, -⟩ := utf8_opening bracket
      rw [hsplit, hbyte, List.append_assoc, List.singleton_append, List.length_cons] at hfuel
      omega
    obtain ⟨first, fuel', after, hto, hskip, hafter, hfuel'⟩ := hcomplete hfaces hshorter
    refine ⟨fuel', after, ?_, hafter, hfuel'⟩
    simp only [skipFrom, hhead, hopening, hhead', hb'.2 bracket, Bool.false_eq_true, if_false, hto]
    exact hskip

/-- The next value inside brackets is skipped after what leads up to it. -/
theorem next_complete {bracket : Bracket} {lead before value : Text} (hlead : Lead bracket lead)
    (hbefore : Blanks before) (hvalue : ValueComplete value) {fuel : Nat} {outer : List Bracket} {c : Cursor}
    {more : List UInt8} (hc : c.Faces (Text.utf8 (lead ++ (before ++ value)) ++ more)) (hmore : NumberEnds more)
    (hfuel : (Text.utf8 (lead ++ (before ++ value)) ++ more).length < fuel) :
    ∃ first fuel' after, skipToValue bracket c = .ok first ∧
      skipFrom fuel false (bracket :: outer) first = skipFrom fuel' true (bracket :: outer) after ∧
      after.rest = more ∧ more.length < fuel' := by
  have hbytes : Text.utf8 (lead ++ (before ++ value)) ++ more =
      Text.utf8 lead ++ (Text.utf8 before ++ (Text.utf8 value ++ more)) := by
    simp only [Text.utf8_append, List.append_assoc]
  rw [hbytes] at hc hfuel
  obtain ⟨first, hto, hfirst⟩ := skipToValue_complete hlead hc
  rw [Cursor.faces_blanks hbefore] at hfirst
  have hshorter : (Text.utf8 value ++ more).length < fuel := by
    rw [List.length_append, List.length_append] at hfuel
    omega
  obtain ⟨fuel', after, hskip, hafter, hfuel'⟩ := hvalue hfirst hmore hshorter
  exact ⟨first, fuel', after, hto, hskip, hafter, hfuel'⟩

theorem last_complete {bracket : Bracket} {lead before value after : Text} (hlead : Lead bracket lead)
    (hbefore : Blanks before) (hvalue : ValueComplete value) (hafter : Blanks after) :
    ItemsComplete bracket (lead ++ (before ++ value ++ after)) := by
  intro fuel outer c rest hc hfuel
  have hbytes : Text.utf8 (lead ++ (before ++ value ++ after) ++ [Json.closing bracket]) ++ rest =
      Text.utf8 (lead ++ (before ++ value)) ++ (Text.utf8 (after ++ [Json.closing bracket]) ++ rest) := by
    simp only [Text.utf8_append, List.append_assoc]
  have hends : NumberEnds (Text.utf8 (after ++ [Json.closing bracket]) ++ rest) := by
    rw [Text.utf8_append, List.append_assoc, utf8_closing]
    exact numberEnds_blanks hafter (by cases bracket <;> decide)
  rw [hbytes] at hc hfuel
  obtain ⟨first, fuel1, c1, hto, hskip, hc1, hfuel1⟩ := next_complete hlead hbefore hvalue hc hends hfuel
  have hclosed := closed hafter (Cursor.faces_of_rest hc1)
  cases fuel1 with
  | zero => omega
  | succ fuel1 =>
    refine ⟨first, fuel1, (skipBlanks c1).eat, hto, ?_, Cursor.rest_eat_of_rest hclosed, ?_⟩
    · rw [hskip]
      simp only [skipFrom, Cursor.head?_of_rest hclosed, beq_self_eq_true, if_true]
    · rw [Text.utf8_append, List.append_assoc, utf8_closing, List.length_append, List.singleton_append,
        List.length_cons] at hfuel1
      omega

theorem more_complete {bracket : Bracket} {lead before value after items : Text} (hlead : Lead bracket lead)
    (hbefore : Blanks before) (hvalue : ValueComplete value) (hafter : Blanks after)
    (hitems : ItemsComplete bracket items) :
    ItemsComplete bracket (lead ++ (before ++ value ++ after) ++ ',' :: items) := by
  intro fuel outer c rest hc hfuel
  have hbytes : Text.utf8 (lead ++ (before ++ value ++ after) ++ ',' :: items ++ [Json.closing bracket]) ++ rest =
      Text.utf8 (lead ++ (before ++ value)) ++
        (Text.utf8 after ++ 0x2C :: (Text.utf8 (items ++ [Json.closing bracket]) ++ rest)) := by
    simp only [Text.utf8_append, utf8_comma, List.append_assoc, List.cons_append]
  rw [hbytes] at hc hfuel
  obtain ⟨first, fuel1, c1, hto, hskip, hc1, hfuel1⟩ :=
    next_complete hlead hbefore hvalue hc (numberEnds_blanks hafter (by decide)) hfuel
  have hcomma := Cursor.rest_of_faces ((Cursor.faces_blanks hafter).mp (Cursor.faces_of_rest hc1)) (by decide)
  cases fuel1 with
  | zero => omega
  | succ fuel1 =>
    have hshorter : (Text.utf8 (items ++ [Json.closing bracket]) ++ rest).length < fuel1 := by
      rw [List.length_append, List.length_cons] at hfuel1
      omega
    obtain ⟨first', fuel2, c2, hto', hskip', hc2, hfuel2⟩ :=
      hitems (Cursor.faces_of_rest (Cursor.rest_eat_of_rest hcomma)) hshorter
    refine ⟨first, fuel2, c2, hto, ?_, hc2, hfuel2⟩
    have hne : ((0x2C : UInt8) == bracket.closing) = false := by cases bracket <;> decide
    rw [hskip]
    simp only [skipFrom, Cursor.head?_of_rest hcomma, hne, beq_self_eq_true, if_true, Bool.false_eq_true, if_false,
      hto']
    exact hskip'

mutual

/-- Every value is walked over, however deep it is nested. -/
theorem value_complete : ∀ {value : Text}, Value value → ValueComplete value
  | _, .scalar hvalue => scalar_complete hvalue
  | _, .empty bracket hblanks => empty_complete bracket hblanks
  | _, .filled _ hitems => filled_complete hitems (items_complete hitems)

theorem items_complete : ∀ {bracket : Bracket} {items : Text}, Items bracket items → ItemsComplete bracket items
  | _, _, .last hlead hbefore hvalue hafter => last_complete hlead hbefore (value_complete hvalue) hafter
  | _, _, .more hlead hbefore hvalue hafter hitems =>
    more_complete hlead hbefore (value_complete hvalue) hafter (items_complete hitems)

end

/-- Every value is skipped in full, with no bound on how deep it is nested. -/
theorem skipValue_complete {c : Cursor} {blanks value : Text} {rest : List UInt8} (hblanks : Blanks blanks)
    (hvalue : Value value) (hc : c.rest = Text.utf8 (blanks ++ value) ++ rest) (hrest : NumberEnds rest) :
    ∃ c', skipValue c = .ok c' ∧ c'.rest = rest := by
  rw [Text.utf8_append, List.append_assoc] at hc
  have hfaces := (Cursor.faces_blanks hblanks).mp (Cursor.faces_of_rest hc)
  have hfuel : (Text.utf8 value ++ rest).length < c.rest.length + 1 := by
    rw [hc, @List.length_append _ (Text.utf8 blanks)]
    omega
  obtain ⟨fuel, after, hskip, hafter, hfuel'⟩ := @value_complete _ hvalue _ [] _ _ hfaces hrest hfuel
  cases fuel with
  | zero => omega
  | succ fuel => exact ⟨after, hskip, hafter⟩

end PatternGrammar.Config
