import PatternGrammar.Proofs.Config.Field

/-!
# Lists of options

The reader of a list takes what the format allows between the brackets. What has been read sets the options that it
writes, none of which was set before.
-/

namespace PatternGrammar.Config

open Json (Blanks Key Spells)

/-! ## What is set by entries -/

/-- From one draft to another some options have been set, which were not set before. -/
structure Draft.Sets (d : Draft) (fields : List Field) (d' : Draft) : Prop where
  fresh : ∀ f ∈ fields, d.has f = false
  nodup : fields.Nodup
  draft : d' = d.setAll d'.toConfig fields

namespace Draft.Sets

variable {d d' d'' : Draft} {fields fields' : List Field}

theorem nothing (d : Draft) : d.Sets [] d :=
  ⟨by simp, List.nodup_nil, rfl⟩

theorem single {f : Field} (v : f.Value) (h : d.has f = false) : d.Sets [f] (d.set f v) := by
  refine ⟨by simpa using h, by simp, ?_⟩
  show d.set f v = d.set f ((d.set f v).toConfig.get f)
  rw [get_toConfig_set]

theorem has (h : d.Sets fields d') {f : Field} (hf : f ∈ fields) : d'.has f = true := by
  rw [has_eq, h.draft, get?_setAll_of_mem _ _ hf]
  rfl

theorem get?_of_not_mem (h : d.Sets fields d') {f : Field} (hf : f ∉ fields) : d'.get? f = d.get? f := by
  rw [h.draft, get?_setAll_of_not_mem _ _ hf]

/-- What is set later is not set before. -/
theorem not_mem (h : d.Sets fields d') (h' : d'.Sets fields' d'') {f : Field} (hf : f ∈ fields) : f ∉ fields' := by
  intro hf'
  have hfresh := h'.fresh f hf'
  rw [h.has hf] at hfresh
  contradiction

/-- What has been set stays as it is. -/
theorem get_eq (h : d.Sets fields d') (h' : d'.Sets fields' d'') {f : Field} (hf : f ∈ fields) :
    d'.toConfig.get f = d''.toConfig.get f := by
  rw [get_toConfig, get_toConfig, h'.get?_of_not_mem (h.not_mem h' hf)]

theorem append (h : d.Sets fields d') (h' : d'.Sets fields' d'') : d.Sets (fields ++ fields') d'' := by
  constructor
  · intro f hf
    by_cases hmem : f ∈ fields
    · exact h.fresh f hmem
    · have hfresh := h'.fresh f ((List.mem_append.mp hf).resolve_left hmem)
      rw [has_eq, h.get?_of_not_mem hmem] at hfresh
      rw [has_eq, hfresh]
  · refine List.nodup_append.mpr ⟨h.nodup, h'.nodup, ?_⟩
    rintro f hf g hg rfl
    exact h.not_mem h' hf hg
  · have hfirst : d' = d.setAll d''.toConfig fields := by
      rw [← setAll_congr d fun f hf => h.get_eq h' hf]
      exact h.draft
    rw [setAll_append, ← hfirst]
    exact h'.draft

end Draft.Sets

/-- An entry looks only at the options that it writes. -/
theorem Entry.congr {c c' : Config} {bracket : Bracket} {fields : List Field} {t : Text}
    (h : ∀ f ∈ fields, c.get f = c'.get f) (hentry : Entry c bracket fields t) : Entry c' bracket fields t := by
  cases hentry with
  | element hblanks =>
    rw [h _ List.mem_cons_self]
    exact .element hblanks
  | known hkey hblanks =>
    rw [h _ List.mem_cons_self]
    exact .known hkey hblanks
  | unknown hkey hname hblanks hvalue => exact .unknown hkey hname hblanks hvalue

/-- White space in front of an entry belongs to it. -/
theorem Entry.blanks {c : Config} {bracket : Bracket} {fields : List Field} {blanks t : Text} (hblanks : Blanks blanks)
    (hentry : Entry c bracket fields t) : Entry c bracket fields (blanks ++ t) := by
  have hkey : ∀ {body : Text → Prop} {key : Text}, Key body key → Key body (blanks ++ key) := by
    rintro body key ⟨before, inner, after, hbefore, hinner, hafter, rfl⟩
    exact ⟨blanks ++ before, inner, after, blanks_append hblanks hbefore, hinner, hafter,
      (List.append_assoc ..).symm⟩
  cases hentry with
  | element hbefore =>
    rw [← List.append_assoc]
    exact .element (blanks_append hblanks hbefore)
  | known hname hbefore =>
    rw [← List.append_assoc]
    exact .known (hkey hname) hbefore
  | unknown hname hother hbefore hvalue =>
    rw [← List.append_assoc]
    exact .unknown (hkey hname) hother hbefore hvalue

/-- A number has ended where the rest of the entries follows. -/
theorem Rest.numberEnds {c : Config} {bracket : Bracket} {fields : List Field} {rest : Text}
    (hrest : Rest c bracket fields rest) (more : List UInt8) :
    NumberEnds (Text.utf8 (rest ++ [Json.closing bracket]) ++ more) := by
  cases hrest with
  | done hblanks =>
    rw [Text.utf8_append, List.append_assoc, utf8_closing]
    exact numberEnds_blanks hblanks (by cases bracket <;> decide)
  | more hblanks hentry hrest =>
    rw [List.append_assoc, Text.utf8_append, List.append_assoc]
    exact numberEnds_blanks hblanks (by decide)

/-! ## Lists -/

/-- Where an element is read it is the entry of its option, which is set by it. -/
theorem readElement_sound {d d' : Draft} {c c' : Cursor} {f : Field} (hfresh : d.has f = false)
    (h : readField d c f = .ok (d', c')) :
    ∃ entry, d.Sets [f] d' ∧ Entry d'.toConfig .list [f] entry ∧ c.rest = Text.utf8 entry ++ c'.rest := by
  obtain ⟨v, blanks, rfl, hblanks, hpiece⟩ := readField_sound h
  refine ⟨blanks ++ f.literal v, .single v hfresh, ?_, hpiece⟩
  have hentry : Entry (d.set f v).toConfig .list [f] (blanks ++ f.literal ((d.set f v).toConfig.get f)) :=
    .element hblanks
  rw [Draft.get_toConfig_set] at hentry
  exact hentry

theorem readArrayEnd_sound {c c' : Cursor} (h : readArrayEnd c = .ok c') :
    ∃ blanks, Blanks blanks ∧ c.rest = Text.utf8 (blanks ++ [']']) ++ c'.rest := by
  simp only [readArrayEnd] at h
  split at h
  · contradiction
  next b hhead =>
  obtain ⟨blanks, hblanks, hrest⟩ := rest_of_head?_skipBlanks hhead
  split at h
  · next hclosing =>
    obtain rfl : b = 0x5D := eq_of_beq hclosing
    obtain rfl := Except.ok.inj h
    exact ⟨blanks, hblanks, pieces_append hrest rfl⟩
  split at h
  · split at h <;> contradiction
  · contradiction

/-- What has been read of a list after an element, and the bracket that closes it. -/
def ElementsSound (fields : List Field) : Prop :=
  ∀ ⦃d d' : Draft⦄ ⦃c c1 c' : Cursor⦄, (∀ f ∈ fields, d.has f = false) → fields.Nodup →
    readElements false d c fields = .ok (d', c1) → readArrayEnd c1 = .ok c' →
    ∃ given rest, given <+: fields ∧ d.Sets given d' ∧ Rest d'.toConfig .list given rest ∧
      c.rest = Text.utf8 (rest ++ [']']) ++ c'.rest

/-- One more element has been read in front. -/
theorem readNext_sound {fields : List Field} (ih : ElementsSound fields) {f : Field} {d d1 d' : Draft}
    {c c1 c2 c' : Cursor} (hfresh : ∀ g ∈ f :: fields, d.has g = false) (hnodup : (f :: fields).Nodup)
    (hfield : readField d c f = .ok (d1, c1)) (h : readElements false d1 c1 fields = .ok (d', c2))
    (hend : readArrayEnd c2 = .ok c') :
    ∃ given entry rest, [f] ++ given <+: f :: fields ∧ d.Sets ([f] ++ given) d' ∧ Entry d'.toConfig .list [f] entry ∧
      Rest d'.toConfig .list given rest ∧ c.rest = Text.utf8 (entry ++ (rest ++ [']'])) ++ c'.rest := by
  obtain ⟨entry, hsets, hentry, hpiece⟩ := readElement_sound (hfresh f List.mem_cons_self) hfield
  -- the options that come later are different from this one, so they are still not set
  have hfresh1 : ∀ g ∈ fields, d1.has g = false := by
    intro g hg
    have hne : g ∉ [f] := by
      intro hmem
      rw [List.mem_singleton.mp hmem] at hg
      exact (List.nodup_cons.mp hnodup).1 hg
    rw [Draft.has_eq, hsets.get?_of_not_mem hne, ← Draft.has_eq]
    exact hfresh g (List.mem_cons_of_mem _ hg)
  obtain ⟨given, rest, hgiven, hsets', hrest, htail⟩ := ih hfresh1 (List.nodup_cons.mp hnodup).2 h hend
  exact ⟨given, entry, rest, (List.prefix_cons_inj f).mpr hgiven, hsets.append hsets',
    hentry.congr fun g hg => hsets.get_eq hsets' hg, hrest, pieces_append hpiece htail⟩

/-- Where the elements of some options are read they stand there, with commas between them and a bracket at the end. -/
theorem readElements_sound (fields : List Field) : ElementsSound fields := by
  induction fields with
  | nil =>
    intro d d' c c1 c' hfresh hnodup h hend
    obtain ⟨rfl, rfl⟩ := Prod.mk.inj (Except.ok.inj h)
    obtain ⟨blanks, hblanks, hpiece⟩ := readArrayEnd_sound hend
    exact ⟨[], blanks, List.nil_prefix, .nothing d, .done hblanks, hpiece⟩
  | cons f fields ih =>
    intro d d' c c1 c' hfresh hnodup h hend
    simp only [readElements] at h
    split at h
    · contradiction
    next b hhead =>
    split at h
    · -- the list ends before this option
      obtain ⟨rfl, rfl⟩ := Prod.mk.inj (Except.ok.inj h)
      obtain ⟨before, hbefore, hfirst⟩ := skipBlanks_sound c
      obtain ⟨after, hafter, hpiece⟩ := readArrayEnd_sound hend
      refine ⟨[], before ++ after, List.nil_prefix, .nothing d, .done (blanks_append hbefore hafter), ?_⟩
      rw [List.append_assoc]
      exact pieces_append hfirst hpiece
    split at h
    · contradiction
    split at h
    · next hcomma =>
      obtain rfl : b = 0x2C := eq_of_beq hcomma
      obtain ⟨before, hbefore, hfirst⟩ := rest_of_head?_skipBlanks hhead
      obtain ⟨after, hafter, hsecond⟩ := skipBlanks_sound (skipBlanks c).eat
      split at h
      · contradiction
      split at h
      · contradiction
      obtain ⟨⟨d1, c2⟩, hfield, h⟩ := exists_of_bind_eq_ok h
      obtain ⟨given, entry, rest, hgiven, hsets, hentry, hrest, hpiece⟩ := readNext_sound ih hfresh hnodup hfield h hend
      refine ⟨[f] ++ given, _, hgiven, hsets, .more hbefore (hentry.blanks hafter) hrest, ?_⟩
      have hall := pieces_append hfirst (pieces_append (p := [',']) rfl (pieces_append hsecond hpiece))
      simpa using hall
    · contradiction

/-- What has been read of a list after its opening bracket, and the bracket that closes it. -/
theorem readList_sound {fields : List Field} {d d' : Draft} {c c1 c' : Cursor} (hfresh : ∀ f ∈ fields, d.has f = false)
    (hnodup : fields.Nodup) (h : readElements true d c fields = .ok (d', c1)) (hend : readArrayEnd c1 = .ok c') :
    ∃ given inner, given <+: fields ∧ d.Sets given d' ∧ Inside d'.toConfig .list given inner ∧
      c.rest = Text.utf8 (inner ++ [']']) ++ c'.rest := by
  cases fields with
  | nil =>
    obtain ⟨rfl, rfl⟩ := Prod.mk.inj (Except.ok.inj h)
    obtain ⟨blanks, hblanks, hpiece⟩ := readArrayEnd_sound hend
    exact ⟨[], blanks, List.nil_prefix, .nothing d, .nothing hblanks, hpiece⟩
  | cons f fields =>
    simp only [readElements] at h
    obtain ⟨before, hbefore, hfirst⟩ := skipBlanks_sound c
    split at h
    · contradiction
    next b hhead =>
    split at h
    · obtain ⟨rfl, rfl⟩ := Prod.mk.inj (Except.ok.inj h)
      obtain ⟨after, hafter, hpiece⟩ := readArrayEnd_sound hend
      refine ⟨[], before ++ after, List.nil_prefix, .nothing d, .nothing (blanks_append hbefore hafter), ?_⟩
      rw [List.append_assoc]
      exact pieces_append hfirst hpiece
    · obtain ⟨⟨d1, c2⟩, hfield, h⟩ := exists_of_bind_eq_ok h
      obtain ⟨given, entry, rest, hgiven, hsets, hentry, hrest, hpiece⟩ :=
        readNext_sound (readElements_sound fields) hfresh hnodup hfield h hend
      refine ⟨[f] ++ given, _, hgiven, hsets, .entries (hentry.blanks hbefore) hrest, ?_⟩
      have hall := pieces_append hfirst hpiece
      simpa using hall

theorem readArrayEnd_complete {c : Cursor} {rest : List UInt8} (hc : c.Faces (0x5D :: rest)) :
    ∃ c', readArrayEnd c = .ok c' ∧ c'.rest = rest := by
  have hskip := Cursor.rest_of_faces hc (by decide)
  refine ⟨(skipBlanks c).eat, ?_, Cursor.rest_eat_of_rest hskip⟩
  simp only [readArrayEnd, Cursor.head?_of_rest hskip, beq_self_eq_true, if_true]

/-- An element is read where it stands, and does not begin with the bracket that closes the list. -/
theorem readElement_complete (d : Draft) {config : Config} {fields : List Field} {entry : Text} {c : Cursor}
    {more : List UInt8} (hentry : Entry config .list fields entry) (hc : c.Faces (Text.utf8 entry ++ more))
    (hmore : NumberEnds more) :
    ∃ f b c', fields = [f] ∧ (skipBlanks c).head? = some b ∧ (b == 0x5D) = false ∧
      readField d (skipBlanks c) f = .ok (d.set f (config.get f), c') ∧ c'.rest = more := by
  cases hentry with
  | @element f blanks hblanks =>
    have hvalue := value_literal f (config.get f)
    rw [Text.utf8_append, List.append_assoc, Cursor.faces_blanks hblanks] at hc
    have hskip := rest_of_faces_value hvalue hc
    obtain ⟨b, bytes, hbytes, hb⟩ := exists_startsValue hvalue
    have hhead : (skipBlanks c).head? = some b := by
      rw [Cursor.head?, hskip, hbytes]
      rfl
    obtain ⟨c', hread, hc'⟩ := readField_complete d (Cursor.faces_skipBlanks hc) hmore
    exact ⟨f, b, c', rfl, hhead, hb.2 .list, hread, hc'⟩

/-- Elements with a bracket behind them are read up to the bracket, and all their options are set. -/
theorem readElements_complete {config : Config} {fields : List Field} {rest : Text}
    (hrest : Rest config .list fields rest) {options : List Field} (hfields : fields <+: options) (d : Draft)
    {c : Cursor} {more : List UInt8} (hc : c.Faces (Text.utf8 (rest ++ [']']) ++ more)) :
    ∃ c', readElements false d c options = .ok (d.setAll config fields, c') ∧ c'.Faces (0x5D :: more) := by
  induction hrest generalizing options d c with
  | done hblanks =>
    have hend : c.Faces (0x5D :: more) := by
      rw [Text.utf8_append, List.append_assoc, Cursor.faces_blanks hblanks] at hc
      exact hc
    cases options with
    | nil => exact ⟨c, rfl, hend⟩
    | cons f options =>
      have hskip := Cursor.rest_of_faces hend (by decide)
      refine ⟨skipBlanks c, ?_, Cursor.faces_skipBlanks hend⟩
      simp only [readElements, Cursor.head?_of_rest hskip, beq_self_eq_true, if_true]
      rfl
  | @more fields fields' blanks entry rest hblanks hentry hrest ih =>
    have hbytes : Text.utf8 (blanks ++ ',' :: (entry ++ rest) ++ [']']) ++ more =
        Text.utf8 blanks ++ 0x2C :: (Text.utf8 entry ++ (Text.utf8 (rest ++ [']']) ++ more)) := by
      simp only [Text.utf8_append, utf8_comma, List.append_assoc, List.cons_append]
    rw [hbytes, Cursor.faces_blanks hblanks] at hc
    have hcomma := Cursor.rest_of_faces hc (by decide)
    have hafter := Cursor.faces_of_rest (Cursor.rest_eat_of_rest hcomma)
    obtain ⟨f, b, c1, rfl, hhead, hb, hfield, hc1⟩ := readElement_complete d hentry hafter (hrest.numberEnds more)
    cases options with
    | nil =>
      have hnil := List.prefix_nil.mp hfields
      contradiction
    | cons g options =>
      obtain ⟨rfl, hfields'⟩ := List.cons_prefix_cons.mp hfields
      obtain ⟨c2, hread, hc2⟩ := ih hfields' (d.set f (config.get f)) (Cursor.faces_of_rest hc1)
      refine ⟨c2, ?_, hc2⟩
      have hne : ((0x2C : UInt8) == 0x5D) = false := by decide
      simp only [readElements, Cursor.head?_of_rest hcomma, hne, beq_self_eq_true, if_true, Bool.false_eq_true,
        if_false, hhead, hb, hfield]
      exact hread

/-- A list of options is read after its opening bracket. -/
theorem readList_complete {config : Config} {fields : List Field} {inner : Text}
    (hinner : Inside config .list fields inner) {options : List Field} (hfields : fields <+: options) (d : Draft)
    {c : Cursor} {more : List UInt8} (hc : c.rest = Text.utf8 (inner ++ [']']) ++ more) :
    ∃ c1 c', readElements true d c options = .ok (d.setAll config fields, c1) ∧ readArrayEnd c1 = .ok c' ∧
      c'.rest = more := by
  have hfaces := Cursor.faces_of_rest hc
  cases hinner with
  | nothing hblanks =>
    have hend : c.Faces (0x5D :: more) := by
      rw [Text.utf8_append, List.append_assoc, Cursor.faces_blanks hblanks] at hfaces
      exact hfaces
    cases options with
    | nil =>
      obtain ⟨c', hread, hc'⟩ := readArrayEnd_complete hend
      exact ⟨c, c', rfl, hread, hc'⟩
    | cons f options =>
      have hskip := Cursor.rest_of_faces hend (by decide)
      obtain ⟨c', hread, hc'⟩ := readArrayEnd_complete (Cursor.faces_skipBlanks hend)
      refine ⟨skipBlanks c, c', ?_, hread, hc'⟩
      simp only [readElements, Cursor.head?_of_rest hskip, beq_self_eq_true, if_true]
      rfl
  | @entries fields fields' entry rest hentry hrest =>
    have hbytes : Text.utf8 (entry ++ rest ++ [']']) ++ more =
        Text.utf8 entry ++ (Text.utf8 (rest ++ [']']) ++ more) := by
      simp only [Text.utf8_append, List.append_assoc]
    rw [hbytes] at hfaces
    obtain ⟨f, b, c1, rfl, hhead, hb, hfield, hc1⟩ := readElement_complete d hentry hfaces (hrest.numberEnds more)
    cases options with
    | nil =>
      have hnil := List.prefix_nil.mp hfields
      contradiction
    | cons g options =>
      obtain ⟨rfl, hfields'⟩ := List.cons_prefix_cons.mp hfields
      have hnext := Cursor.faces_of_rest hc1
      obtain ⟨c2, hread, hc2⟩ := readElements_complete hrest hfields' (d.set f (config.get f)) hnext
      obtain ⟨c', hend, hc'⟩ := readArrayEnd_complete hc2
      refine ⟨c2, c', ?_, hend, hc'⟩
      simp only [readElements, hhead, hb, if_true, Bool.false_eq_true, if_false, hfield]
      exact hread

end PatternGrammar.Config
