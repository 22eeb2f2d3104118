import PatternGrammar.Config.Skipping
import PatternGrammar.Proofs.Config.Json
import PatternGrammar.Proofs.Text.Utf8

/-!
# Cursors and pieces of text

A reader that succeeds has taken a piece of text off the bytes in front of its cursor. For each reader there are two
lemmas: what piece it has taken (`_sound`), and that it takes every such piece (`_complete`). Here are those for single
bytes, white space and words.
-/

namespace PatternGrammar

/-- A computation in two steps succeeds if both do. -/
theorem exists_of_bind_eq_ok {ε α β : Type} {x : Except ε α} {f : α → Except ε β} {b : β}
    (h : (x >>= f) = .ok b) : ∃ a, x = .ok a ∧ f a = .ok b := by
  cases x with
  | error e => contradiction
  | ok a => exact ⟨a, rfl, h⟩

theorem bind_ok {ε α β : Type} (a : α) (f : α → Except ε β) : (Except.ok a >>= f) = f a := rfl

namespace Config

open Json (Blanks)

namespace Cursor

@[simp] theorem rest_look (c : Cursor) : c.look.rest = c.rest := rfl

theorem rest_eat (c : Cursor) : c.eat.rest = c.rest.tail := by
  unfold eat
  split <;> simp_all

theorem rest_eatMany (n : Nat) (c : Cursor) : (c.eatMany n).rest = c.rest.drop n := by
  induction n generalizing c with
  | zero => rfl
  | succ n ih => rw [eatMany, ih, rest_eat, List.drop_tail]

theorem rest_eatWhile (p : UInt8 → Bool) (c : Cursor) :
    (c.eatMany (c.rest.takeWhile p).length).rest = c.rest.dropWhile p := by
  have hdrop := @List.drop_left _ (c.rest.takeWhile p) (c.rest.dropWhile p)
  rw [List.takeWhile_append_dropWhile] at hdrop
  rw [rest_eatMany, hdrop]

/-- The next byte of a cursor is the first one in front of it. -/
theorem rest_eq_of_head? {c : Cursor} {b : UInt8} (h : c.head? = some b) : c.rest = b :: c.eat.rest := by
  obtain ⟨rest, hrest⟩ := List.head?_eq_some_iff.mp h
  rw [rest_eat, hrest, List.tail_cons]

theorem head?_of_rest {c : Cursor} {b : UInt8} {rest : List UInt8} (h : c.rest = b :: rest) : c.head? = some b := by
  rw [head?, h, List.head?_cons]

theorem rest_eat_of_rest {c : Cursor} {b : UInt8} {rest : List UInt8} (h : c.rest = b :: rest) : c.eat.rest = rest := by
  rw [rest_eat, h, List.tail_cons]

/-- The bytes in front of a cursor are a text. -/
def Readable (c : Cursor) : Prop :=
  ∃ t, c.rest = Text.utf8 t

/-- What is left of a text after some of its characters is a text. -/
theorem Readable.after {c c' : Cursor} {piece : Text} (hc : c.Readable)
    (h : c.rest = Text.utf8 piece ++ c'.rest) : c'.Readable := by
  obtain ⟨t, ht⟩ := hc
  obtain ⟨after, -, hafter⟩ := Text.utf8_eq_append (ht.symm.trans h)
  exact ⟨after, hafter⟩

end Cursor

/-- Pieces one after the other are one piece. -/
theorem pieces_append {p q : Text} {bytes middle rest : List UInt8} (hp : bytes = Text.utf8 p ++ middle)
    (hq : middle = Text.utf8 q ++ rest) : bytes = Text.utf8 (p ++ q) ++ rest := by
  rw [hp, hq, Text.utf8_append, List.append_assoc]

/-! ## White space -/

theorem isBlank_eq_true {b : UInt8} (h : isBlank b = true) :
    b.toNat < 128 ∧ Text.charOf b ∈ [' ', '\n', '\t', '\r'] := by
  simp only [isBlank, Bool.or_eq_true, beq_iff_eq] at h
  obtain ((rfl | rfl) | rfl) | rfl := h <;> decide

theorem isBlank_byteOf {ch : Char} (h : ch ∈ [' ', '\n', '\t', '\r']) :
    ch.toNat < 128 ∧ isBlank (Text.byteOf ch) = true := by
  simp only [List.mem_cons, List.not_mem_nil, or_false] at h
  obtain rfl | rfl | rfl | rfl := h <;> decide

theorem rest_skipBlanks (c : Cursor) : (skipBlanks c).rest = c.rest.dropWhile isBlank :=
  Cursor.rest_eatWhile isBlank c

/-- What is skipped as white space is white space. -/
theorem skipBlanks_sound (c : Cursor) : ∃ blanks, Blanks blanks ∧ c.rest = Text.utf8 blanks ++ (skipBlanks c).rest := by
  have hblank : ∀ b ∈ c.rest.takeWhile isBlank, isBlank b = true := fun b hb =>
    List.all_eq_true.mp List.all_takeWhile b hb
  refine ⟨(c.rest.takeWhile isBlank).map Text.charOf, ?_, ?_⟩
  · intro ch hch
    obtain ⟨b, hb, rfl⟩ := List.mem_map.mp hch
    exact (isBlank_eq_true (hblank b hb)).2
  · rw [Text.utf8_map_charOf fun b hb => (isBlank_eq_true (hblank b hb)).1, rest_skipBlanks,
      List.takeWhile_append_dropWhile]

/-- White space in front changes nothing about what comes after all white space. -/
theorem dropWhile_blanks {blanks : Text} (hblanks : Blanks blanks) (bytes : List UInt8) :
    (Text.utf8 blanks ++ bytes).dropWhile isBlank = bytes.dropWhile isBlank := by
  apply List.dropWhile_append_of_pos
  intro b hb
  rw [Text.utf8_small fun ch hch => (isBlank_byteOf (hblanks ch hch)).1] at hb
  obtain ⟨ch, hch, rfl⟩ := List.mem_map.mp hb
  exact (isBlank_byteOf (hblanks ch hch)).2

/-- The cursor stands before some bytes, except for white space in front. -/
def Cursor.Faces (c : Cursor) (bytes : List UInt8) : Prop :=
  c.rest.dropWhile isBlank = bytes.dropWhile isBlank

namespace Cursor

theorem faces_of_rest {c : Cursor} {bytes : List UInt8} (h : c.rest = bytes) : c.Faces bytes :=
  congrArg (List.dropWhile isBlank) h

theorem faces_skipBlanks {c : Cursor} {bytes : List UInt8} (h : c.Faces bytes) : (skipBlanks c).Faces bytes := by
  have hagain : ∀ l : List UInt8, (l.dropWhile isBlank).dropWhile isBlank = l.dropWhile isBlank := by
    intro l
    induction l with
    | nil => rfl
    | cons b l ih =>
      by_cases hb : isBlank b = true
      · rw [List.dropWhile_cons_of_pos hb]
        exact ih
      · rw [List.dropWhile_cons_of_neg hb, List.dropWhile_cons_of_neg hb]
  rw [Faces, rest_skipBlanks, hagain]
  exact h

/-- A cursor that stands before something may stand before white space in front of it. -/
theorem faces_blanks {c : Cursor} {blanks : Text} {bytes : List UInt8} (hblanks : Blanks blanks) :
    c.Faces (Text.utf8 blanks ++ bytes) ↔ c.Faces bytes := by
  rw [Faces, Faces, dropWhile_blanks hblanks]

/-- White space is skipped up to the first other byte. -/
theorem rest_of_faces {c : Cursor} {b : UInt8} {rest : List UInt8} (h : c.Faces (b :: rest))
    (hb : isBlank b = false) : (skipBlanks c).rest = b :: rest := by
  rw [rest_skipBlanks, h, List.dropWhile_cons_of_neg (by simp [hb])]

end Cursor

/-- White space, if any, stands between a cursor and the next byte that is none. -/
theorem rest_of_head?_skipBlanks {c : Cursor} {b : UInt8} (h : (skipBlanks c).head? = some b) :
    ∃ blanks, Blanks blanks ∧ c.rest = Text.utf8 blanks ++ b :: (skipBlanks c).eat.rest := by
  obtain ⟨blanks, hblanks, hrest⟩ := skipBlanks_sound c
  rw [Cursor.rest_eq_of_head? h] at hrest
  exact ⟨blanks, hblanks, hrest⟩

/-! ## Words -/

/-- Where a word is read it stands in front of the cursor. -/
theorem readWord_sound {word : List UInt8} {c c' : Cursor} (h : readWord word c = .ok c') :
    c.rest = word ++ c'.rest := by
  induction word generalizing c with
  | nil =>
    obtain rfl : c = c' := Except.ok.inj h
    rfl
  | cons b word ih =>
    simp only [readWord] at h
    split at h
    · contradiction
    · next d hd =>
      split at h
      · next heq =>
        obtain rfl : d = b := eq_of_beq heq
        rw [Cursor.rest_eq_of_head? hd, ih h, List.cons_append]
      · contradiction

/-- A word in front of the cursor is read. -/
theorem readWord_complete {word rest : List UInt8} {c : Cursor} (hc : c.rest = word ++ rest) :
    ∃ c', readWord word c = .ok c' ∧ c'.rest = rest := by
  induction word generalizing c with
  | nil => exact ⟨c, rfl, hc⟩
  | cons b word ih =>
    rw [List.cons_append] at hc
    simp only [readWord, Cursor.head?_of_rest hc, beq_self_eq_true, if_true]
    exact ih (Cursor.rest_eat_of_rest hc)

/-! ## The colon after a key -/

/-- Where a colon is read there was one, behind white space. -/
theorem readColon_sound {c c' : Cursor} (h : readColon c = .ok c') :
    ∃ blanks, Blanks blanks ∧ c.rest = Text.utf8 (blanks ++ [':']) ++ c'.rest := by
  simp only [readColon] at h
  split at h
  · contradiction
  · next b hb =>
    split at h
    · next hcolon =>
      obtain rfl : b = 0x3A := eq_of_beq hcolon
      obtain rfl : (skipBlanks c).eat = c' := Except.ok.inj h
      obtain ⟨blanks, hblanks, hrest⟩ := rest_of_head?_skipBlanks hb
      exact ⟨blanks, hblanks, pieces_append hrest rfl⟩
    · contradiction

/-- A colon in front of the cursor is read, also behind white space. -/
theorem readColon_complete {c : Cursor} {blanks : Text} {rest : List UInt8} (hblanks : Blanks blanks)
    (hc : c.rest = Text.utf8 (blanks ++ [':']) ++ rest) : ∃ c', readColon c = .ok c' ∧ c'.rest = rest := by
  rw [Text.utf8_append, List.append_assoc] at hc
  have hfaces : c.Faces (0x3A :: rest) := (Cursor.faces_blanks hblanks).mp (Cursor.faces_of_rest hc)
  have hskip := Cursor.rest_of_faces hfaces (by decide)
  refine ⟨(skipBlanks c).eat, ?_, Cursor.rest_eat_of_rest hskip⟩
  simp only [readColon, Cursor.head?_of_rest hskip, beq_self_eq_true, if_true]

end Config

end PatternGrammar
