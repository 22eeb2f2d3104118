import PatternGrammar.Config.Reader
import PatternGrammar.Proofs.Config.Format
import PatternGrammar.Proofs.Config.Integer
import PatternGrammar.Proofs.Config.Skipping

/-!
# Options one by one

A draft is a record of values of options. The value of an option is read exactly off its spelling, and reading it sets
this option in the draft and no other.
-/

namespace PatternGrammar.Config

open Json (Blanks)

/-! ## Drafts -/

namespace Draft

def get? (d : Draft) : (f : Field) → Option f.Value
  | .caseInsensitive => d.caseInsensitive
  | .multiLine => d.multiLine
  | .dotMatchesNewLine => d.dotMatchesNewLine
  | .sizeLimit => d.sizeLimit
  | .nestLimit => d.nestLimit

def set (d : Draft) : (f : Field) → f.Value → Draft
  | .caseInsensitive, b => { d with caseInsensitive := some b }
  | .multiLine, b => { d with multiLine := some b }
  | .dotMatchesNewLine, b => { d with dotMatchesNewLine := some b }
  | .sizeLimit, n => { d with sizeLimit := some n }
  | .nestLimit, n => { d with nestLimit := some n }

theorem has_eq (d : Draft) (f : Field) : d.has f = (d.get? f).isSome := by
  cases f <;> rfl

/-- Options that were not read have their standard values. -/
theorem get_toConfig (d : Draft) (f : Field) : d.toConfig.get f = (d.get? f).getD (standard.get f) := by
  cases f <;> rfl

theorem get?_set (d : Draft) (f : Field) (v : f.Value) : (d.set f v).get? f = some v := by
  cases f <;> rfl

theorem get?_set_of_ne (d : Draft) {f g : Field} (v : f.Value) (h : g ≠ f) : (d.set f v).get? g = d.get? g := by
  cases f <;> cases g <;> first | contradiction | rfl

theorem get_toConfig_set (d : Draft) (f : Field) (v : f.Value) : (d.set f v).toConfig.get f = v := by
  rw [get_toConfig, get?_set]
  rfl

def setAll (d : Draft) (c : Config) (fields : List Field) : Draft :=
  fields.foldl (fun d f => d.set f (c.get f)) d

theorem setAll_append (d : Draft) (c : Config) (fields fields' : List Field) :
    d.setAll c (fields ++ fields') = (d.setAll c fields).setAll c fields' :=
  List.foldl_append

theorem setAll_congr (d : Draft) {c c' : Config} {fields : List Field} (h : ∀ f ∈ fields, c.get f = c'.get f) :
    d.setAll c fields = d.setAll c' fields := by
  induction fields generalizing d with
  | nil => rfl
  | cons f fields ih =>
    show (d.set f (c.get f)).setAll c fields = (d.set f (c'.get f)).setAll c' fields
    rw [h f List.mem_cons_self, ih _ fun g hg => h g (List.mem_cons_of_mem _ hg)]

theorem get?_setAll_of_not_mem (d : Draft) (c : Config) {fields : List Field} {f : Field} (h : f ∉ fields) :
    (d.setAll c fields).get? f = d.get? f := by
  induction fields generalizing d with
  | nil => rfl
  | cons g fields ih =>
    have hne : f ≠ g := fun heq => h (heq ▸ List.mem_cons_self)
    show ((d.set g (c.get g)).setAll c fields).get? f = _
    rw [ih _ fun hmem => h (List.mem_cons_of_mem _ hmem), get?_set_of_ne d _ hne]

theorem get?_setAll_of_mem (d : Draft) (c : Config) {fields : List Field} {f : Field} (h : f ∈ fields) :
    (d.setAll c fields).get? f = some (c.get f) := by
  induction fields generalizing d with
  | nil => contradiction
  | cons g fields ih =>
    show ((d.set g (c.get g)).setAll c fields).get? f = _
    -- the last value set is the one that stays
    by_cases hmem : f ∈ fields
    · exact ih _ hmem
    · have heq : f = g := (List.mem_cons.mp h).resolve_right hmem
      subst heq
      rw [get?_setAll_of_not_mem _ c hmem, get?_set]

/-- Options of which some have been read and the others are standard. -/
theorem toConfig_setAll {c : Config} {fields : List Field} (h : ∀ f, f ∉ fields → c.get f = standard.get f) :
    (setAll {} c fields).toConfig = c := by
  apply eq_of_get
  intro f
  rw [get_toConfig]
  by_cases hmem : f ∈ fields
  · rw [get?_setAll_of_mem _ c hmem]
    rfl
  · rw [get?_setAll_of_not_mem _ c hmem, h f hmem]
    cases f <;> rfl

/-- Where only some options are set the others have their standard values. -/
theorem get_toConfig_of_not_mem {c : Config} {fields : List Field} {f : Field} (h : f ∉ fields) :
    (setAll {} c fields).toConfig.get f = standard.get f := by
  rw [get_toConfig, get?_setAll_of_not_mem _ c h]
  cases f <;> rfl

end Draft

/-! ## Names -/

theorem Field.mem_all (f : Field) : f ∈ Field.all := by
  cases f <;> decide

theorem ofName?_sound {name : List Char} {f : Field} (h : Field.ofName? name = some f) : f.name.toList = name := by
  have hfound := List.find?_some h
  exact of_decide_eq_true hfound

theorem ofName?_name (f : Field) : Field.ofName? f.name.toList = some f := by
  cases f <;> decide

theorem ofName?_eq_none {name : List Char} : Field.ofName? name = none ↔ ∀ f : Field, f.name.toList ≠ name := by
  rw [Field.ofName?, List.find?_eq_none]
  constructor
  · intro h f heq
    exact h f f.mem_all (decide_eq_true heq)
  · intro h f hmem heq
    exact h f (of_decide_eq_true heq)

/-! ## Values -/

/-- A value of the wrong kind is refused. -/
theorem refuseValue_ne_ok {α : Type} {expected : Expected} {b : UInt8} {c : Cursor} {a : α} :
    refuseValue expected b c ≠ .ok a := by
  intro h
  unfold refuseValue at h
  repeat' split at h
  all_goals
    first
    | contradiction
    | (obtain ⟨x, -, h⟩ := exists_of_bind_eq_ok h
       contradiction)

/-- A truth value that is read stands there as `true` or `false`. -/
theorem readBool_sound {c c' : Cursor} {b : Bool} (h : readBool c = .ok (b, c')) :
    ∃ blanks, Blanks blanks ∧ c.rest = Text.utf8 (blanks ++ flagText b) ++ c'.rest := by
  simp only [readBool] at h
  split at h
  · contradiction
  next x hhead =>
  obtain ⟨blanks, hblanks, hrest⟩ := rest_of_head?_skipBlanks hhead
  split at h
  · next ht =>
    obtain rfl : x = 0x74 := eq_of_beq ht
    obtain ⟨c1, hword, h⟩ := exists_of_bind_eq_ok h
    obtain ⟨rfl, rfl⟩ := Prod.mk.inj (Except.ok.inj h)
    refine ⟨blanks, hblanks, pieces_append hrest ?_⟩
    rw [readWord_sound hword]
    rfl
  split at h
  · next hf =>
    obtain rfl : x = 0x66 := eq_of_beq hf
    obtain ⟨c1, hword, h⟩ := exists_of_bind_eq_ok h
    obtain ⟨rfl, rfl⟩ := Prod.mk.inj (Except.ok.inj h)
    refine ⟨blanks, hblanks, pieces_append hrest ?_⟩
    rw [readWord_sound hword]
    rfl
  · exact absurd h refuseValue_ne_ok

theorem readBool_complete {c : Cursor} {b : Bool} {rest : List UInt8}
    (hc : c.Faces (Text.utf8 (flagText b) ++ rest)) : ∃ c', readBool c = .ok (b, c') ∧ c'.rest = rest := by
  cases b with
  | true =>
    have hword : c.Faces (0x74 :: (trueRest ++ rest)) := hc
    have hskip := Cursor.rest_of_faces hword (by decide)
    obtain ⟨c', hread, hc'⟩ := readWord_complete (Cursor.rest_eat_of_rest hskip)
    refine ⟨c', ?_, hc'⟩
    simp only [readBool, Cursor.head?_of_rest hskip, beq_self_eq_true, if_true, hread]
    rfl
  | false =>
    have hword : c.Faces (0x66 :: (falseRest ++ rest)) := hc
    have hskip := Cursor.rest_of_faces hword (by decide)
    obtain ⟨c', hread, hc'⟩ := readWord_complete (Cursor.rest_eat_of_rest hskip)
    refine ⟨c', ?_, hc'⟩
    have hne : ((0x66 : UInt8) == 0x74) = false := by decide
    simp only [readBool, Cursor.head?_of_rest hskip, hne, beq_self_eq_true, if_true, Bool.false_eq_true, if_false,
      hread]
    rfl

/-- An integer that is read stands there in its shortest form and is not too large. -/
theorem readInteger_sound {expected : Expected} {most n : Nat} {c c' : Cursor}
    (h : readInteger expected most c = .ok (n, c')) :
    n ≤ most ∧ ∃ blanks, Blanks blanks ∧ c.rest = Text.utf8 (blanks ++ Nat.toDigits 10 n) ++ c'.rest := by
  simp only [readInteger] at h
  split at h
  · contradiction
  next b hhead =>
  obtain ⟨blanks, hblanks, hrest⟩ := skipBlanks_sound c
  split at h
  · obtain ⟨⟨number, c1⟩, hread, h⟩ := exists_of_bind_eq_ok h
    cases number with
    | unsigned m =>
      dsimp only at h
      split at h
      · next hle =>
        obtain ⟨rfl, rfl⟩ := Prod.mk.inj (Except.ok.inj h)
        obtain ⟨hpositive, -, hpiece⟩ := readNumber_sound hread
        rw [hpositive] at hpiece
        exact ⟨hle, blanks, hblanks, pieces_append hrest hpiece⟩
      · contradiction
    | negative => contradiction
    | floating => contradiction
  · exact absurd h refuseValue_ne_ok

/-- An integer in its shortest form is read if it is not too large and something else comes behind it. -/
theorem readInteger_complete {expected : Expected} {most n : Nat} {c : Cursor} {rest : List UInt8} (hmost : n ≤ most)
    (hn : n ≤ maxInteger) (hc : c.Faces (Text.utf8 (Nat.toDigits 10 n) ++ rest)) (hrest : NumberEnds rest) :
    ∃ c', readInteger expected most c = .ok (n, c') ∧ c'.rest = rest := by
  have hskip := rest_of_faces_value (.scalar (scalar_toDigits n)) hc
  obtain ⟨b, hhead, hb⟩ := head?_of_digits (whole_toDigits n).1 hskip
  obtain ⟨c', hread, hc'⟩ := readNumber_complete hn hskip hrest
  refine ⟨c', ?_, hc'⟩
  have hminus : (b == 0x2D) = false := beq_of_isDigit hb (by decide)
  simp only [readInteger, hhead, hminus, hb, Bool.false_or, if_true, Bool.false_eq_true, if_false]
  rw [hread, bind_ok]
  simp only [hmost, if_true]
  rfl

/-- The spelling of an option's value is a value. -/
theorem value_literal (f : Field) (v : f.Value) : Json.Value (f.literal v) := by
  have hflag : ∀ b : Bool, Json.Scalar (flagText b) := by
    rintro (_ | _)
    · exact .false
    · exact .true
  cases f with
  | caseInsensitive => exact .scalar (hflag v)
  | multiLine => exact .scalar (hflag v)
  | dotMatchesNewLine => exact .scalar (hflag v)
  | sizeLimit => exact .scalar (scalar_toDigits (UInt64.toNat v))
  | nestLimit => exact .scalar (scalar_toDigits (UInt32.toNat v))

/-- The value of an option is read off its spelling. -/
theorem readField_sound {d d' : Draft} {c c' : Cursor} {f : Field} (h : readField d c f = .ok (d', c')) :
    ∃ v blanks, d' = d.set f v ∧ Blanks blanks ∧ c.rest = Text.utf8 (blanks ++ f.literal v) ++ c'.rest := by
  have hbool : ∀ {update : Bool → Draft}, (readBool c >>= fun x => pure (update x.1, x.2)) = .ok (d', c') →
      ∃ b blanks, d' = update b ∧ Blanks blanks ∧ c.rest = Text.utf8 (blanks ++ flagText b) ++ c'.rest := by
    intro update h
    obtain ⟨⟨b, c1⟩, hread, h⟩ := exists_of_bind_eq_ok h
    obtain ⟨rfl, rfl⟩ := Prod.mk.inj (Except.ok.inj h)
    obtain ⟨blanks, hblanks, hpiece⟩ := readBool_sound hread
    exact ⟨b, blanks, rfl, hblanks, hpiece⟩
  cases f with
  | caseInsensitive => exact hbool h
  | multiLine => exact hbool h
  | dotMatchesNewLine => exact hbool h
  | sizeLimit =>
    obtain ⟨⟨n, c1⟩, hread, h⟩ := exists_of_bind_eq_ok h
    obtain ⟨rfl, rfl⟩ := Prod.mk.inj (Except.ok.inj h)
    obtain ⟨hle, blanks, hblanks, hpiece⟩ := readInteger_sound hread
    have hsame : n.toUInt64.toNat = n := UInt64.toNat_ofNat_of_lt' (Nat.lt_succ_of_le hle)
    refine ⟨n.toUInt64, blanks, rfl, hblanks, ?_⟩
    rw [hpiece]
    show _ = Text.utf8 (blanks ++ Nat.toDigits 10 n.toUInt64.toNat) ++ _
    rw [hsame]
  | nestLimit =>
    obtain ⟨⟨n, c1⟩, hread, h⟩ := exists_of_bind_eq_ok h
    obtain ⟨rfl, rfl⟩ := Prod.mk.inj (Except.ok.inj h)
    obtain ⟨hle, blanks, hblanks, hpiece⟩ := readInteger_sound hread
    have hsame : n.toUInt32.toNat = n := UInt32.toNat_ofNat_of_lt' (Nat.lt_succ_of_le hle)
    refine ⟨n.toUInt32, blanks, rfl, hblanks, ?_⟩
    rw [hpiece]
    show _ = Text.utf8 (blanks ++ Nat.toDigits 10 n.toUInt32.toNat) ++ _
    rw [hsame]

/-- The value of an option in its spelling is read and set. -/
theorem readField_complete (d : Draft) {c : Cursor} {f : Field} {v : f.Value} {rest : List UInt8}
    (hc : c.Faces (Text.utf8 (f.literal v) ++ rest)) (hrest : NumberEnds rest) :
    ∃ c', readField d c f = .ok (d.set f v, c') ∧ c'.rest = rest := by
  -- the three flags are read alike
  have hbool : ∀ (update : Bool → Draft) (b : Bool), c.Faces (Text.utf8 (flagText b) ++ rest) →
      ∃ c', (readBool c >>= fun x => pure (update x.1, x.2)) = .ok (update b, c') ∧ c'.rest = rest := by
    intro update b hflag
    obtain ⟨c', hread, hc'⟩ := readBool_complete hflag
    refine ⟨c', ?_, hc'⟩
    rw [hread, bind_ok]
    rfl
  cases f with
  | caseInsensitive => exact hbool (d.set .caseInsensitive) v hc
  | multiLine => exact hbool (d.set .multiLine) v hc
  | dotMatchesNewLine => exact hbool (d.set .dotMatchesNewLine) v hc
  | sizeLimit =>
    have hle : UInt64.toNat v ≤ maxInteger := Nat.le_of_lt_succ (UInt64.toNat_lt v)
    obtain ⟨c', hread, hc'⟩ := readInteger_complete hle hle hc hrest
    refine ⟨c', ?_, hc'⟩
    have hsame : (UInt64.toNat v).toUInt64 = v := UInt64.ofNat_toNat
    rw [readField, hread, bind_ok]
    simp only [hsame]
    rfl
  | nestLimit =>
    have hle : UInt32.toNat v ≤ maxDepth := Nat.le_of_lt_succ (UInt32.toNat_lt v)
    have hle' : UInt32.toNat v ≤ maxInteger := Nat.le_trans hle (by decide)
    obtain ⟨c', hread, hc'⟩ := readInteger_complete hle hle' hc hrest
    refine ⟨c', ?_, hc'⟩
    have hsame : (UInt32.toNat v).toUInt32 = v := UInt32.ofNat_toNat
    rw [readField, hread, bind_ok]
    simp only [hsame]
    rfl

end PatternGrammar.Config
