import PatternGrammar.Proofs.Extraction
import PatternGrammar.Proofs.Grammar.Leaving

/-!
# Text is only deleted

A pattern leaves a text without the piece that it matched, so what any parser leaves, and what any parser is run on
meanwhile, comes out of the text by deleting characters (`Grammar.BuiltFrom.text_deleted`).
-/

namespace PatternGrammar

/-- What a pattern leaves is the text with a piece deleted. -/
theorem Pattern.stripped_sublist {config : Config} {pattern query : Text} {p : Pattern} {x : Extraction}
    (hp : Pattern.compile config pattern = .ok p) (hx : p.extract query = some x) : x.stripped.Sublist query := by
  obtain ⟨tree, e, groups, -, hprogram, hwf, -⟩ := Pattern.exists_tree_of_compile hp
  obtain ⟨pre, m, post, hquery, hstripped, -⟩ := Pattern.exists_cut_of_extract hprogram hwf hx
  rw [hstripped, hquery]
  exact (List.sublist_append_left pre m).append (.refl post)

def Event.text? {ν : Type} : Event ν → Option Text
  | noMatch _ query => some query
  | firstAlternativeFailed input => some input
  | probed _ input => some input
  | _ => none

namespace Parts

variable {ν : Type}

/-- Patterns that were compiled, and functions that only delete. -/
def deleting (known : ν → Prop) : Parts ν where
  pattern p := ∃ config pattern, Pattern.compile config pattern = .ok p
  function f := ∀ text rest, f text = some rest → rest.Sublist text
  orElse := True
  choice _ := True
  definition := known

/-- Patterns delete a piece of the text, and deleting several times is deleting. -/
theorem leave_sublist (known : ν → Prop) : (deleting known).Leave List.Sublist where
  refl text := .refl text
  trans hst htu := hst.trans htu
  pattern hp hx := by
    obtain ⟨config, pattern, hcompile⟩ := hp
    exact Pattern.stripped_sublist hcompile hx
  function hf hrest := hf _ _ hrest

end Parts

namespace Grammar

variable {ν : Type} {τ : ν → Type} {known : ν → Prop} {α β : Type}

theorem fail_deleting : (fail : Grammar τ α).BuiltFrom (.deleting known) :=
  fun _ _ h => nomatch h

theorem anyChar_deleting : (anyChar : Grammar τ Char).BuiltFrom (.deleting known) := by
  rintro (_ | ⟨c, cs⟩) rest h
  · contradiction
  · obtain rfl := Option.some.inj h
    exact List.sublist_cons_self c cs

theorem rest_deleting : (rest : Grammar τ Text).BuiltFrom (.deleting known) := by
  intro text left h
  obtain rfl := Option.some.inj h
  exact List.nil_sublist text

theorem eof_deleting : (eof : Grammar τ Unit).BuiltFrom (.deleting known) := by
  rintro (_ | ⟨c, cs⟩) rest h
  · obtain rfl := Option.some.inj h
    exact .refl []
  · contradiction

variable {body : (name : ν) → Grammar τ (τ name)} {g : Grammar τ α} {g' : Grammar τ β}
  {input text : Text}

/-- What a grammar leaves comes out of its text by deleting characters. -/
theorem Leaves.sublist {rest : Text} (h : g.Leaves body input rest)
    (hbody : ∀ name, known name → (body name).BuiltFrom (.deleting known))
    (hg : g.BuiltFrom (.deleting known)) : rest.Sublist input :=
  h.related (Parts.leave_sublist known) hbody hg

/-- Every text that a parser is run on inside comes out of the text by deleting characters. -/
theorem Visits.sublist (hvisit : Visits body g input g' text)
    (hbody : ∀ name, known name → (body name).BuiltFrom (.deleting known))
    (hg : g.BuiltFrom (.deleting known)) : text.Sublist input :=
  hvisit.related (Parts.leave_sublist known) hbody hg

/-- A failure is noted with the text that the parser was run on. -/
theorem Notes.text_eq {e : Event ν} (h : g.Notes input e) (ht : e.text? = some text) : text = input := by
  unfold Notes at h
  split at h
  · obtain ⟨-, rfl⟩ := h
    exact (Option.some.inj ht).symm
  · obtain rfl := h
    exact (Option.some.inj ht).symm
  · contradiction
  · contradiction
  · obtain ⟨-, rfl⟩ := h
    exact (Option.some.inj ht).symm
  · contradiction

/-- What a grammar leaves of a text, what any parser is run on meanwhile and what the events are about comes out of the
text by deleting characters. -/
theorem BuiltFrom.text_deleted {r : Run ν α} (hg : g.BuiltFrom (.deleting known))
    (hbody : ∀ name, known name → (body name).BuiltFrom (.deleting known)) (h : g.Gives body input r) :
    (∀ a rest, r.outcome = some (a, rest) → rest.Sublist input) ∧
      (∀ (γ : Type) (g' : Grammar τ γ) (text : Text), Visits body g input g' text → text.Sublist input) ∧
      ∀ e ∈ r.events, ∀ text, e.text? = some text → text.Sublist input := by
  refine ⟨fun a rest houtcome => ?_, fun γ g' text hvisit => hvisit.sublist hbody hg, fun e he text ht => ?_⟩
  · exact Leaves.sublist ⟨r, a, h, houtcome⟩ hbody hg
  · obtain ⟨γ, g', text', hvisit, hnotes⟩ := h.exists_visit he
    rw [hnotes.text_eq ht]
    exact hvisit.sublist hbody hg

/-- A name for all `b` there are, up to the end of what was read. -/
theorem text_deleted_letters :
    ∃ (p : Pattern) (body : Unit → Grammar (fun _ : Unit => Unit) Unit) (r : Run Unit Unit),
      Pattern.compile .caseSensitive ['b'] = .ok p ∧
        body () = .orElse (.keepRight (.regex p (.constant ())) (.lazy ())) (.keepLeft (.pure ()) .rest) ∧
        (Grammar.lazy ()).Gives body ['b', 'a', 'b', 'c'] r ∧ r.outcome = some ((), ['a', 'c']) ∧
        ['a', 'c'].Sublist ['b', 'a', 'b', 'c'] := by
  let p : Pattern := ⟨['b'], .ofExpr (.chars (.letter .exact 'b'.toNat)) 0⟩
  let body : Unit → Grammar (fun _ : Unit => Unit) Unit := fun _ =>
    .orElse (.keepRight (.regex p (.constant ())) (.lazy ())) (.keepLeft (.pure ()) .rest)
  have hp : Pattern.compile .caseSensitive ['b'] = .ok p := by rfl
  have hbody (name : Unit) (_ : True) : (body name).BuiltFrom (.deleting fun _ => True) :=
    ⟨trivial, ⟨⟨_, _, hp⟩, trivial⟩, trivial, rest_deleting⟩
  have hg : (Grammar.lazy () : Grammar (fun _ : Unit => Unit) Unit).BuiltFrom (.deleting fun _ => True) :=
    trivial
  obtain ⟨r, hrun, houtcome⟩ : ∃ r, (Grammar.lazy ()).Gives body ['b', 'a', 'b', 'c'] r ∧
      r.outcome = some ((), ['a', 'c']) := ⟨_, ⟨3, rfl⟩, rfl⟩
  exact ⟨p, body, r, hp, rfl, hrun, houtcome, (hg.text_deleted hbody hrun).1 () _ houtcome⟩

end Grammar

end PatternGrammar
