import PatternGrammar.Config.Loading
import PatternGrammar.Proofs.Config.Members

/-!
# Which texts are options

Loading options from a text accepts the texts of the format and no others.
-/

namespace PatternGrammar.Config

open Json (Blanks)

/-- What has been read as options is a list or an object of the format. -/
theorem readOptions_sound {c c' : Cursor} {d : Draft} (hc : c.Readable) (h : readOptions c = .ok (d, c')) :
    ∃ bracket fields before inner, Blanks before ∧ Draft.Sets {} fields d ∧ Inside d.toConfig bracket fields inner ∧
      Allowed bracket fields ∧
      c.rest = Text.utf8 (before ++ Json.opening bracket :: (inner ++ [Json.closing bracket])) ++ c'.rest := by
  simp only [readOptions] at h
  split at h
  · contradiction
  next b hhead =>
  obtain ⟨before, hbefore, hfirst⟩ := rest_of_head?_skipBlanks hhead
  split at h
  · next hlist =>
    obtain rfl : b = 0x5B := eq_of_beq hlist
    obtain ⟨⟨d1, c1⟩, hread, h⟩ := exists_of_bind_eq_ok h
    obtain ⟨c2, hend, h⟩ := exists_of_bind_eq_ok h
    obtain ⟨rfl, rfl⟩ := Prod.mk.inj (Except.ok.inj h)
    have hfresh : ∀ f ∈ Field.all, Draft.has {} f = false := fun f _ => by cases f <;> rfl
    obtain ⟨fields, inner, hfields, hsets, hinner, hpiece⟩ := readList_sound hfresh (by decide) hread hend
    exact ⟨.list, fields, before, inner, hbefore, hsets, hinner, hfields,
      pieces_append hfirst (pieces_append (p := ['[']) rfl hpiece)⟩
  split at h
  · next hobject =>
    obtain rfl : b = 0x7B := eq_of_beq hobject
    have hopened : c.rest = Text.utf8 (before ++ ['\x7b']) ++ (skipBlanks c).eat.rest := pieces_append hfirst rfl
    obtain ⟨fields, inner, hsets, hinner, hpiece⟩ := readObject_sound (hc.after hopened) h
    exact ⟨.object, fields, before, inner, hbefore, hsets, hinner, hsets.nodup,
      pieces_append hfirst (pieces_append (p := ['\x7b']) rfl hpiece)⟩
  · exact absurd h refuseValue_ne_ok

/-- Options of the format are read. -/
theorem readOptions_complete {c : Cursor} {config : Config} {bracket : Bracket} {fields : List Field}
    {before inner : Text} {more : List UInt8} (hbefore : Blanks before) (hinner : Inside config bracket fields inner)
    (hallowed : Allowed bracket fields)
    (hc : c.rest = Text.utf8 (before ++ Json.opening bracket :: (inner ++ [Json.closing bracket])) ++ more) :
    ∃ c', readOptions c = .ok (Draft.setAll {} config fields, c') ∧ c'.rest = more := by
  rw [Text.utf8_append, List.append_assoc] at hc
  have hfaces := (Cursor.faces_blanks hbefore).mp (Cursor.faces_of_rest hc)
  cases bracket with
  | list =>
    have hopening : c.Faces (0x5B :: (Text.utf8 (inner ++ [']']) ++ more)) := hfaces
    have hskip := Cursor.rest_of_faces hopening (by decide)
    obtain ⟨c1, c2, hread, hend, hc2⟩ := readList_complete hinner hallowed {} (Cursor.rest_eat_of_rest hskip)
    refine ⟨c2, ?_, hc2⟩
    simp only [readOptions, Cursor.head?_of_rest hskip, beq_self_eq_true, if_true]
    rw [hread, bind_ok, hend, bind_ok]
    rfl
  | object =>
    have hopening : c.Faces (0x7B :: (Text.utf8 (inner ++ [Json.closing .object]) ++ more)) := hfaces
    have hskip := Cursor.rest_of_faces hopening (by decide)
    have heat := Cursor.rest_eat_of_rest hskip
    have hfresh : ∀ f ∈ fields, Draft.has {} f = false := fun f _ => by cases f <;> rfl
    have hfuel : (skipBlanks c).eat.rest.length < (skipBlanks c).rest.length + 1 := by
      rw [hskip, heat, List.length_cons]
      omega
    obtain ⟨c', hread, hc'⟩ := readObject_complete hinner hfresh hallowed heat hfuel
    refine ⟨c', ?_, hc'⟩
    have hne : ((0x7B : UInt8) == 0x5B) = false := by decide
    simp only [readOptions, Cursor.head?_of_rest hskip, hne, beq_self_eq_true, if_true, Bool.false_eq_true, if_false]
    exact hread

/-- What is read is what the text says. -/
theorem read_sound {text : Text} {c : Config} (h : read (Text.utf8 text) = .ok c) : c.WrittenAs text := by
  have hreadable : (Cursor.ofBytes (Text.utf8 text)).Readable := ⟨text, rfl⟩
  unfold read at h
  obtain ⟨⟨d, c1⟩, hoptions, h⟩ := exists_of_bind_eq_ok h
  obtain ⟨bracket, fields, before, inner, hbefore, hsets, hinner, hallowed, hpiece⟩ :=
    readOptions_sound hreadable hoptions
  dsimp only at h
  split at h
  · -- only white space is left behind the closing bracket
    next hempty =>
    obtain rfl := Except.ok.inj h
    obtain ⟨after, hafter, hrest⟩ := skipBlanks_sound c1
    rw [List.isEmpty_iff.mp hempty] at hrest
    refine ⟨bracket, fields, before, inner, after, hbefore, hinner, hafter, hallowed, ?_, ?_⟩
    · intro f hf
      rw [hsets.draft]
      exact Draft.get_toConfig_of_not_mem hf
    · apply Text.utf8_injective
      have hall := pieces_append hpiece hrest
      rw [List.append_nil] at hall
      have hbytes : Text.utf8 text = _ := hall
      rw [hbytes]
      simp
  · contradiction

/-- A name may be spelled with escapes, and the values of other members are not looked at. -/
example : caseSensitive.WrittenAs "\x7b\"case\\u005finsensitive\":false, \"x\":[-1.5e3, \x7b\x7d]\x7d".toList :=
  read_sound (by rfl)

/-- Every text of the format is read, and as the options that it is written for. -/
theorem read_complete {text : Text} {c : Config} (h : c.WrittenAs text) : read (Text.utf8 text) = .ok c := by
  obtain ⟨bracket, fields, before, inner, after, hbefore, hinner, hafter, hallowed, hstandard, htext⟩ := h
  have hbytes : (Cursor.ofBytes (Text.utf8 text)).rest =
      Text.utf8 (before ++ Json.opening bracket :: (inner ++ [Json.closing bracket])) ++ Text.utf8 after := by
    rw [← Text.utf8_append, htext]
    simp [Cursor.ofBytes]
  obtain ⟨c1, hoptions, hc1⟩ := readOptions_complete hbefore hinner hallowed hbytes
  have hend : (skipBlanks c1).rest = [] := by
    have hdrop := dropWhile_blanks hafter []
    rw [List.append_nil] at hdrop
    rw [rest_skipBlanks, hc1, hdrop]
    rfl
  rw [read, hoptions, bind_ok]
  simp only [hend, List.isEmpty_nil, if_true]
  rw [Draft.toConfig_setAll hstandard]
  rfl

/-- No text writes two different choices of options. -/
theorem WrittenAs.unique {text : Text} {c c' : Config} (h : c.WrittenAs text) (h' : c'.WrittenAs text) : c = c' := by
  have hread := read_complete h
  rw [read_complete h'] at hread
  exact (Except.ok.inj hread).symm

/-- Loading accepts the texts of the format, each with the options it writes, and refuses every other text. -/
theorem ofJson_accepts (text : Text) :
    (∀ c, ofJson text = .ok c ↔ c.WrittenAs text) ∧
      ((∃ c : Config, c.WrittenAs text) ∨
        ∃ message, ofJson text = .error (.invalidConfig ("Failed to parse config: " ++ message))) := by
  constructor
  · intro c
    constructor
    · intro h
      apply read_sound
      unfold ofJson at h
      split at h
      · next c' hread =>
        rw [hread]
        exact congrArg Except.ok (Except.ok.inj h)
      · contradiction
    · intro h
      rw [ofJson, read_complete h]
  · cases hread : read (Text.utf8 text) with
    | ok c => exact .inl ⟨c, read_sound hread⟩
    | error e =>
      refine .inr ⟨e.message .text, ?_⟩
      rw [ofJson, hread]

end PatternGrammar.Config
