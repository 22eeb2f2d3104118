import PatternGrammar.Proofs.Config.Elements

/-!
# Objects of options

The reader of an object takes what the format allows between the brackets: the options by name, in any order and each at
most once, and any other members.
-/

namespace PatternGrammar.Config

open Json (Blanks Key Spells)

/-! ## Members -/

/-- A member has been read from its opening quote on. -/
theorem readMember_sound {d d' : Draft} {c c' : Cursor} (hc : c.Readable) (hhead : (skipBlanks c).head? = some 0x22)
    (h : readMember d (skipBlanks c).eat = .ok (d', c')) :
    ∃ fields entry, d.Sets fields d' ∧ Entry d'.toConfig .object fields entry ∧
      c.rest = Text.utf8 entry ++ c'.rest := by
  obtain ⟨before, hbefore, hfirst⟩ := rest_of_head?_skipBlanks hhead
  have hopened : c.rest = Text.utf8 (before ++ ['"']) ++ (skipBlanks c).eat.rest := pieces_append hfirst rfl
  have hc1 := hc.after hopened
  unfold readMember at h
  obtain ⟨⟨name, c2⟩, hname, h⟩ := exists_of_bind_eq_ok h
  obtain ⟨body, hbody, hclosed⟩ := readString_sound hc1 hname
  dsimp only at h
  -- the key, once its colon has been read as well
  have hkey : ∀ {c3 : Cursor}, readColon c2 = .ok c3 → ∃ key, Key (Spells name) key ∧
      c.rest = Text.utf8 key ++ c3.rest := by
    intro c3 hcolon
    obtain ⟨after, hafter, hpiece⟩ := readColon_sound hcolon
    refine ⟨_, ⟨before, body, after, hbefore, hbody, hafter, rfl⟩, ?_⟩
    have hall := pieces_append hopened (pieces_append hclosed hpiece)
    simpa using hall
  split at h
  · next f hf =>
    split at h
    · contradiction
    next hfresh =>
    obtain ⟨c3, hcolon, h⟩ := exists_of_bind_eq_ok h
    obtain ⟨key, hspells, hpiece⟩ := hkey hcolon
    obtain ⟨v, blanks, rfl, hblanks, hvalue⟩ := readField_sound h
    refine ⟨[f], key ++ (blanks ++ f.literal v), .single v (by simpa using hfresh), ?_,
      pieces_append hpiece hvalue⟩
    have hentry : Entry (d.set f v).toConfig .object [f]
        (key ++ (blanks ++ f.literal ((d.set f v).toConfig.get f))) := by
      rw [← ofName?_sound hf] at hspells
      exact .known hspells hblanks
    rw [Draft.get_toConfig_set] at hentry
    exact hentry
  · next hnone =>
    obtain ⟨c3, hcolon, h⟩ := exists_of_bind_eq_ok h
    obtain ⟨key, hspells, hpiece⟩ := hkey hcolon
    obtain ⟨c4, hskip, h⟩ := exists_of_bind_eq_ok h
    obtain ⟨rfl, rfl⟩ := Prod.mk.inj (Except.ok.inj h)
    obtain ⟨blanks, value, hblanks, hvalue, hrest⟩ := skipValue_sound (hc.after hpiece) hskip
    exact ⟨[], key ++ (blanks ++ value), .nothing d, .unknown hspells (ofName?_eq_none.mp hnone) hblanks hvalue,
      pieces_append hpiece hrest⟩

/-- A key is read where it stands, with the colon after it. -/
theorem readKey_complete {name key : Text} {c : Cursor} {more : List UInt8} (hkey : Key (Spells name) key)
    (hc : c.Faces (Text.utf8 key ++ more)) :
    (skipBlanks c).head? = some 0x22 ∧ ∃ c1 c2, readString (skipBlanks c).eat = .ok (name, c1) ∧
      readColon c1 = .ok c2 ∧ c2.rest = more := by
  obtain ⟨body, after, hbody, hafter, hhead, hbytes⟩ := rest_of_faces_key hkey hc
  obtain ⟨c1, hstring, hc1⟩ := readString_complete hbody hbytes
  obtain ⟨c2, hcolon, hc2⟩ := readColon_complete hafter hc1
  exact ⟨hhead, c1, c2, hstring, hcolon, hc2⟩

/-- A member is read where it stands, if the option it writes has not been read before. -/
theorem readMember_complete {d : Draft} {config : Config} {fields : List Field} {entry : Text} {c : Cursor}
    {more : List UInt8} (hentry : Entry config .object fields entry) (hfresh : ∀ f ∈ fields, d.has f = false)
    (hc : c.Faces (Text.utf8 entry ++ more)) (hmore : NumberEnds more) :
    (skipBlanks c).head? = some 0x22 ∧
      ∃ c', readMember d (skipBlanks c).eat = .ok (d.setAll config fields, c') ∧ c'.rest = more := by
  cases hentry with
  | @known f key blanks hkey hblanks =>
    rw [Text.utf8_append, List.append_assoc] at hc
    obtain ⟨hhead, c1, c2, hname, hcolon, hc2⟩ := readKey_complete hkey hc
    rw [Text.utf8_append, List.append_assoc] at hc2
    have hfaces := (Cursor.faces_blanks hblanks).mp (Cursor.faces_of_rest hc2)
    obtain ⟨c3, hfield, hc3⟩ := readField_complete d hfaces hmore
    refine ⟨hhead, c3, ?_, hc3⟩
    have hnew : d.has f = false := hfresh f List.mem_cons_self
    rw [readMember, hname, bind_ok]
    simp only [ofName?_name, hnew, Bool.false_eq_true, if_false]
    rw [hcolon, bind_ok]
    exact hfield
  | @unknown name key blanks value hkey hother hblanks hvalue =>
    rw [Text.utf8_append, List.append_assoc] at hc
    obtain ⟨hhead, c1, c2, hname, hcolon, hc2⟩ := readKey_complete hkey hc
    obtain ⟨c3, hskip, hc3⟩ := skipValue_complete hblanks hvalue hc2 hmore
    refine ⟨hhead, c3, ?_, hc3⟩
    rw [readMember, hname, bind_ok]
    simp only [ofName?_eq_none.mpr hother]
    rw [hcolon, bind_ok, hskip, bind_ok]
    rfl

/-! ## Objects -/

/-- What has been read of an object after a member, the bracket that closes it included. -/
theorem readMembers_sound {fuel : Nat} {d d' : Draft} {c c' : Cursor} (hc : c.Readable)
    (h : readMembers fuel false d c = .ok (d', c')) :
    ∃ fields rest, d.Sets fields d' ∧ Rest d'.toConfig .object fields rest ∧
      c.rest = Text.utf8 (rest ++ [Json.closing .object]) ++ c'.rest := by
  induction fuel generalizing d c with
  | zero => contradiction
  | succ fuel ih =>
    simp only [readMembers] at h
    split at h
    · contradiction
    next b hhead =>
    obtain ⟨before, hbefore, hfirst⟩ := rest_of_head?_skipBlanks hhead
    split at h
    · next hclosing =>
      obtain rfl : b = 0x7D := eq_of_beq hclosing
      obtain ⟨rfl, rfl⟩ := Prod.mk.inj (Except.ok.inj h)
      exact ⟨[], before, .nothing d, .done hbefore, pieces_append hfirst rfl⟩
    split at h
    · contradiction
    split at h
    · next hcomma =>
      obtain rfl : b = 0x2C := eq_of_beq hcomma
      have hopened : c.rest = Text.utf8 (before ++ [',']) ++ (skipBlanks c).eat.rest := pieces_append hfirst rfl
      have hc1 := hc.after hopened
      split at h
      · contradiction
      next b' hhead' =>
      split at h
      · next hquote =>
        obtain rfl : b' = 0x22 := eq_of_beq hquote
        obtain ⟨⟨d1, c2⟩, hmember, h⟩ := exists_of_bind_eq_ok h
        obtain ⟨fields, entry, hsets, hentry, hpiece⟩ := readMember_sound hc1 hhead' hmember
        obtain ⟨fields', rest, hsets', hrest, htail⟩ := ih (hc1.after hpiece) h
        refine ⟨fields ++ fields', _, hsets.append hsets',
          .more hbefore (hentry.congr fun f hf => hsets.get_eq hsets' hf) hrest, ?_⟩
        have hall := pieces_append hopened (pieces_append hpiece htail)
        simpa using hall
      split at h <;> contradiction
    · contradiction

/-- What has been read of an object after its opening bracket. -/
theorem readObject_sound {fuel : Nat} {d d' : Draft} {c c' : Cursor} (hc : c.Readable)
    (h : readMembers fuel true d c = .ok (d', c')) :
    ∃ fields inner, d.Sets fields d' ∧ Inside d'.toConfig .object fields inner ∧
      c.rest = Text.utf8 (inner ++ [Json.closing .object]) ++ c'.rest := by
  cases fuel with
  | zero => contradiction
  | succ fuel =>
    simp only [readMembers, if_true] at h
    split at h
    · contradiction
    next b hhead =>
    split at h
    · next hclosing =>
      obtain rfl : b = 0x7D := eq_of_beq hclosing
      obtain ⟨blanks, hblanks, hpiece⟩ := rest_of_head?_skipBlanks hhead
      obtain ⟨rfl, rfl⟩ := Prod.mk.inj (Except.ok.inj h)
      exact ⟨[], blanks, .nothing d, .nothing hblanks, pieces_append hpiece rfl⟩
    split at h
    · next hquote =>
      obtain rfl : b = 0x22 := eq_of_beq hquote
      obtain ⟨⟨d1, c1⟩, hmember, h⟩ := exists_of_bind_eq_ok h
      obtain ⟨fields, entry, hsets, hentry, hpiece⟩ := readMember_sound hc hhead hmember
      obtain ⟨fields', rest, hsets', hrest, htail⟩ := readMembers_sound (hc.after hpiece) h
      refine ⟨fields ++ fields', entry ++ rest, hsets.append hsets',
        .entries (hentry.congr fun f hf => hsets.get_eq hsets' hf) hrest, ?_⟩
      rw [List.append_assoc]
      exact pieces_append hpiece htail
    · contradiction

theorem member_ne_nil {config : Config} {fields : List Field} {entry : Text}
    (hentry : Entry config .object fields entry) : entry ≠ [] := by
  cases hentry with
  | known hkey =>
    obtain ⟨before, inner, after, -, -, -, rfl⟩ := hkey
    simp
  | unknown hkey =>
    obtain ⟨before, inner, after, -, -, -, rfl⟩ := hkey
    simp

/-- What has not been read before the first of some members has not been read after it. -/
theorem fresh_setAll {d : Draft} (config : Config) {fields fields' : List Field}
    (hfresh : ∀ f ∈ fields ++ fields', d.has f = false) (hnodup : (fields ++ fields').Nodup) :
    ∀ f ∈ fields', (d.setAll config fields).has f = false := by
  intro f hf
  have hne : f ∉ fields := fun hmem => (List.nodup_append.mp hnodup).2.2 f hmem f hf rfl
  rw [Draft.has_eq, Draft.get?_setAll_of_not_mem _ _ hne, ← Draft.has_eq]
  exact hfresh f (List.mem_append_right _ hf)

/-- The members of the format are read up to the closing brace, and all their options are set. -/
theorem readMembers_complete {config : Config} {fields : List Field} {rest : Text}
    (hrest : Rest config .object fields rest) {fuel : Nat} {d : Draft} {c : Cursor} {more : List UInt8}
    (hfresh : ∀ f ∈ fields, d.has f = false) (hnodup : fields.Nodup)
    (hc : c.Faces (Text.utf8 (rest ++ [Json.closing .object]) ++ more))
    (hfuel : (Text.utf8 (rest ++ [Json.closing .object]) ++ more).length < fuel) :
    ∃ c', readMembers fuel false d c = .ok (d.setAll config fields, c') ∧ c'.rest = more := by
  induction hrest generalizing fuel d c with
  | done hblanks =>
    have hclosed : (skipBlanks c).rest = 0x7D :: more := closed hblanks hc
    cases fuel with
    | zero => omega
    | succ fuel =>
      refine ⟨(skipBlanks c).eat, ?_, Cursor.rest_eat_of_rest hclosed⟩
      simp only [readMembers, Cursor.head?_of_rest hclosed, beq_self_eq_true, if_true]
      rfl
  | @more fields fields' blanks entry rest hblanks hentry hrest ih =>
    have hbytes : Text.utf8 (blanks ++ ',' :: (entry ++ rest) ++ [Json.closing .object]) ++ more =
        Text.utf8 blanks ++ 0x2C :: (Text.utf8 entry ++ (Text.utf8 (rest ++ [Json.closing .object]) ++ more)) := by
      simp only [Text.utf8_append, utf8_comma, List.append_assoc, List.cons_append]
    rw [hbytes] at hc hfuel
    rw [Cursor.faces_blanks hblanks] at hc
    have hcomma := Cursor.rest_of_faces hc (by decide)
    have hafter := Cursor.faces_of_rest (Cursor.rest_eat_of_rest hcomma)
    cases fuel with
    | zero => omega
    | succ fuel =>
      obtain ⟨hquote, c1, hmember, hc1⟩ := readMember_complete hentry
        (fun f hf => hfresh f (List.mem_append_left _ hf)) hafter (hrest.numberEnds more)
      have hshorter : (Text.utf8 (rest ++ [Json.closing .object]) ++ more).length < fuel := by
        rw [List.length_append, List.length_cons, @List.length_append _ (Text.utf8 entry)] at hfuel
        omega
      obtain ⟨c2, hread, hc2⟩ := ih (fresh_setAll config hfresh hnodup) (List.nodup_append.mp hnodup).2.1
        (Cursor.faces_of_rest hc1) hshorter
      refine ⟨c2, ?_, hc2⟩
      have hne : ((0x2C : UInt8) == 0x7D) = false := by decide
      simp only [readMembers, Cursor.head?_of_rest hcomma, hne, hquote, beq_self_eq_true, if_true, Bool.false_eq_true,
        if_false]
      rw [hmember, bind_ok, Draft.setAll_append]
      exact hread

/-- An object of options is read after its opening bracket. -/
theorem readObject_complete {config : Config} {fields : List Field} {inner : Text}
    (hinner : Inside config .object fields inner) {fuel : Nat} {d : Draft} {c : Cursor} {more : List UInt8}
    (hfresh : ∀ f ∈ fields, d.has f = false) (hnodup : fields.Nodup)
    (hc : c.rest = Text.utf8 (inner ++ [Json.closing .object]) ++ more) (hfuel : c.rest.length < fuel) :
    ∃ c', readMembers fuel true d c = .ok (d.setAll config fields, c') ∧ c'.rest = more := by
  have hfaces := Cursor.faces_of_rest hc
  cases fuel with
  | zero => omega
  | succ fuel =>
    cases hinner with
    | nothing hblanks =>
      have hclosed : (skipBlanks c).rest = 0x7D :: more := closed hblanks hfaces
      refine ⟨(skipBlanks c).eat, ?_, Cursor.rest_eat_of_rest hclosed⟩
      simp only [readMembers, Cursor.head?_of_rest hclosed, beq_self_eq_true, if_true]
      rfl
    | @entries fields fields' entry rest hentry hrest =>
      have hbytes : Text.utf8 (entry ++ rest ++ [Json.closing .object]) ++ more =
          Text.utf8 entry ++ (Text.utf8 (rest ++ [Json.closing .object]) ++ more) := by
        simp only [Text.utf8_append, List.append_assoc]
      rw [hbytes] at hfaces hc
      obtain ⟨hquote, c1, hmember, hc1⟩ := readMember_complete hentry
        (fun f hf => hfresh f (List.mem_append_left _ hf)) hfaces (hrest.numberEnds more)
      -- a unit of fuel is spent on the member, of which at least one byte has been taken
      have hshorter : (Text.utf8 (rest ++ [Json.closing .object]) ++ more).length < fuel := by
        have hpos : 0 < (Text.utf8 entry).length := by
          rw [List.length_pos_iff, ne_eq, Text.utf8_eq_nil]
          exact member_ne_nil hentry
        rw [hc, @List.length_append _ (Text.utf8 entry)] at hfuel
        omega
      obtain ⟨c2, hread, hc2⟩ := readMembers_complete hrest (fresh_setAll config hfresh hnodup)
        (List.nodup_append.mp hnodup).2.1 (Cursor.faces_of_rest hc1) hshorter
      refine ⟨c2, ?_, hc2⟩
      have hne : ((0x22 : UInt8) == 0x7D) = false := by decide
      simp only [readMembers, hne, hquote, beq_self_eq_true, if_true, Bool.false_eq_true, if_false]
      rw [hmember, bind_ok, Draft.setAll_append]
      exact hread

end PatternGrammar.Config
