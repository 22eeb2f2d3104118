import PatternGrammar.Proofs.Extraction
import PatternGrammar.Proofs.Grammar.Leaving

/-!
# Anchored grammars take prefixes

A pattern that begins with `^` matches at the start of a text only, unless flag `m` is on there, so it leaves a suffix
of the text. A grammar of such patterns takes one prefix after the other: what it leaves, and what any parser is run on
meanwhile, is a suffix of the text (`Grammar.BuiltFrom.prefixes_taken`).
-/

namespace PatternGrammar

namespace Regex

/-! ## Trees that match at the start only -/

mutual

/-- Whatever a tree matches begins with an assertion that holds at the start of a text only. -/
def Tree.Anchored (flags : Flags) : Tree → Prop
  | .assertion _ kind => flags.assertion kind = .textStart
  | .repetition _ min _ _ body => 1 ≤ min ∧ body.Anchored flags
  | .group _ .capture body => body.Anchored flags
  | .group _ (.flagged settings) body => body.Anchored (flags.setAll settings)
  | .alternation _ branches => Tree.AllAnchored flags branches
  | .concat _ items => Tree.RowAnchored flags items
  | _ => False

/-- All of some branches are anchored, each under the flags that those before it leave. -/
def Tree.AllAnchored (flags : Flags) : List Tree → Prop
  | [] => True
  | t :: ts => t.Anchored flags ∧ Tree.AllAnchored (t.flagsAfter flags) ts

/-- The first of some items is anchored. Settings of flags match nothing and may stand before it. -/
def Tree.RowAnchored (flags : Flags) : List Tree → Prop
  | [] => False
  | .flags _ settings :: ts => Tree.RowAnchored (flags.setAll settings) ts
  | t :: _ => t.Anchored flags

end

/-- A row of items is anchored if it begins with `^` where flag `m` is off. -/
theorem Tree.anchored_concat {flags : Flags} (hmultiLine : flags.multiLine = false) (span span' : Span)
    (items : List Tree) : (Tree.concat span (.assertion span' .lineStart :: items)).Anchored flags := by
  show (if !flags.multiLine then Assertion.textStart else _) = Assertion.textStart
  rw [hmultiLine]
  rfl

/-- The start of a text is its first place. -/
theorem eq_zero_of_textStart {text : Text} {i : Nat} (hi : i ≤ text.length)
    (h : Assertion.textStart.HoldsAt text i) : i = 0 := by
  have hnone : (text.before i).isNone = true := h
  unfold Text.before at hnone
  split at hnone
  · assumption
  · next hne =>
    have hlt : i - 1 < text.length := by omega
    rw [List.getElem?_eq_getElem hlt] at hnone
    contradiction

mutual

/-- What an anchored tree matches starts where the text does. -/
theorem Tree.start_of_anchored {text : Text} {i j : Nat} (hi : i ≤ text.length) :
    ∀ (t : Tree) (given : Flags), t.Anchored given → t.Matches text given i j → i = 0
  | .assertion _ kind, given, h, ⟨_, hholds⟩ => by
    have heq : given.assertion kind = .textStart := h
    rw [heq] at hholds
    exact eq_zero_of_textStart hi hholds
  | .repetition _ min max _ body, given, ⟨hmin, hbody⟩, ⟨n, hn, htimes⟩ => by
    have hpos : 1 ≤ n := Nat.le_trans hmin hn.1
    obtain ⟨n, rfl⟩ : ∃ m, n = m + 1 := ⟨n - 1, by omega⟩
    obtain ⟨k, hfirst, -⟩ := htimes
    exact Tree.start_of_anchored hi body given hbody hfirst
  | .group _ .capture body, given, h, hmatch => Tree.start_of_anchored hi body given h hmatch
  | .group _ (.flagged settings) body, given, h, hmatch =>
    Tree.start_of_anchored hi body (given.setAll settings) h hmatch
  | .alternation _ branches, given, h, hmatch => Tree.start_of_allAnchored hi branches given h hmatch
  | .concat _ items, given, h, hmatch => Tree.start_of_rowAnchored hi items given h hmatch

theorem Tree.start_of_allAnchored {text : Text} {i j : Nat} (hi : i ≤ text.length) :
    ∀ (ts : List Tree) (given : Flags), Tree.AllAnchored given ts → Tree.MatchesSome text given ts i j → i = 0
  | t :: _, given, ⟨ht, _⟩, .inl hmatch => Tree.start_of_anchored hi t given ht hmatch
  | t :: ts, given, ⟨_, hts⟩, .inr hmatch =>
    Tree.start_of_allAnchored hi ts (Tree.flagsAfter given t) hts hmatch

theorem Tree.start_of_rowAnchored {text : Text} {i j : Nat} (hi : i ≤ text.length) :
    ∀ (ts : List Tree) (given : Flags), Tree.RowAnchored given ts → Tree.MatchesRow text given ts i j → i = 0
  | t :: ts, given, h, ⟨k, hmatch, hrest⟩ => by
    cases t with
    | flags span settings =>
      -- the setting matches nothing, so the next item starts at the same place
      obtain rfl : i = k := hmatch
      exact Tree.start_of_rowAnchored hi ts (given.setAll settings) h hrest
    | _ => exact Tree.start_of_anchored hi _ given h hmatch

end

end Regex

/-! ## Patterns -/

def Pattern.Anchored (p : Pattern) : Prop :=
  ∃ config pattern tree, Pattern.compile config pattern = .ok p ∧ Regex.Tree.ofText pattern = .ok tree ∧
    tree.Anchored config.flags

/-- The match of a pattern starts where the text does and ends at a place up to which its tree matches. -/
structure Pattern.MatchesPrefix (p : Pattern) (query : Text) (x : Extraction) (stop : Nat) : Prop where
  noted : ∃ marks, p.program.search? query = some marks ∧ marks.last? 0 = some 0 ∧ marks.last? 1 = some stop
  stop_le : stop ≤ query.length
  stripped : x.stripped = query.drop stop
  tree : ∃ config pattern tree, Pattern.compile config pattern = .ok p ∧
    Regex.Tree.ofText pattern = .ok tree ∧ tree.Matches query config.flags 0 stop

/-- What an anchored pattern takes out of a text stands at its start. -/
theorem Pattern.Anchored.matchesPrefix {p : Pattern} (hp : p.Anchored) {query : Text} {x : Extraction}
    (hx : p.extract query = some x) : ∃ stop, p.MatchesPrefix query x stop := by
  obtain ⟨config, pattern, tree, hcompile, htree, hanchored⟩ := hp
  obtain ⟨tree', e, groups, htree', hprogram, hwf, hsame⟩ := Pattern.exists_tree_of_compile hcompile
  obtain rfl : tree = tree' := Except.ok.inj (htree.symm.trans htree')
  cases hsearch : p.program.search? query with
  | none =>
    simp only [Pattern.extract, hsearch] at hx
    contradiction
  | some marks =>
    obtain ⟨start, stop, y, hstart, hstop, hle, hlength, hy, hstripped, hmatch, -⟩ :=
      Pattern.extract_of_search hprogram hwf hsearch
    obtain rfl : x = y := Option.some.inj (hx.symm.trans hy)
    rw [hsame] at hmatch
    obtain rfl : start = 0 := Regex.Tree.start_of_anchored (Nat.le_trans hle hlength) _ _ hanchored hmatch
    refine ⟨stop, ⟨marks, hsearch, hstart, hstop⟩, hlength, ?_, config, pattern, tree, hcompile, htree, hmatch⟩
    rw [hstripped, List.take_zero, List.nil_append]

/-! ## Grammars -/

/-- Patterns that are anchored, and functions that leave suffixes. -/
def Parts.anchored {ν : Type} (known : ν → Prop) : Parts ν where
  pattern := Pattern.Anchored
  function f := ∀ text rest, f text = some rest → rest <:+ text
  orElse := True
  choice _ := True
  definition := known

/-- An anchored pattern leaves a suffix, as its match starts with the text. -/
theorem Parts.leave_suffix {ν : Type} (known : ν → Prop) : (anchored known).Leave fun rest input => rest <:+ input where
  refl text := List.suffix_refl text
  trans hst htu := hst.trans htu
  pattern hp hx := by
    obtain ⟨stop, htaken⟩ := hp.matchesPrefix hx
    rw [htaken.stripped]
    exact List.drop_suffix stop _
  function hf hrest := hf _ _ hrest

namespace Grammar

variable {ν : Type} {τ : ν → Type} {known : ν → Prop} {α : Type}

/-- Functions that take nothing, a character or everything leave suffixes. -/
theorem functions_anchored :
    (fail : Grammar τ α).BuiltFrom (.anchored known) ∧
      (anyChar : Grammar τ Char).BuiltFrom (.anchored known) ∧
      (rest : Grammar τ Text).BuiltFrom (.anchored known) ∧
      (eof : Grammar τ Unit).BuiltFrom (.anchored known) := by
  refine ⟨fun _ _ h => (nomatch h), ?_, fun text left h => ?_, ?_⟩
  · rintro (_ | ⟨c, cs⟩) left h
    · contradiction
    · obtain rfl := Option.some.inj h
      exact List.suffix_cons c cs
  · obtain rfl := Option.some.inj h
    exact List.nil_suffix
  · rintro (_ | ⟨c, cs⟩) left h
    · obtain rfl := Option.some.inj h
      exact List.suffix_refl []
    · contradiction

variable {body : (name : ν) → Grammar τ (τ name)} {g : Grammar τ α} {input : Text}

/-- What a grammar of anchored patterns leaves and what any parser is run on meanwhile is a suffix of the text, and the
value of a pattern is made of a match at the start of the text that it is run on. -/
theorem BuiltFrom.prefixes_taken {r : Run ν α} (hg : g.BuiltFrom (.anchored known))
    (hbody : ∀ name, known name → (body name).BuiltFrom (.anchored known)) (h : g.Gives body input r) :
    (∀ a rest, r.outcome = some (a, rest) → rest <:+ input) ∧
      (∀ (β : Type) (g' : Grammar τ β) (text : Text), Visits body g input g' text → text <:+ input) ∧
      ∀ (β : Type) (p : Pattern) (i : Interpreter β) (text : Text),
        Visits body g input (.regex p i) text →
          ∀ s b rest, (Grammar.regex p i).Gives body text s → s.outcome = some (b, rest) →
            ∃ x stop, p.extract text = some x ∧ b = i.eval x ∧ rest = x.stripped ∧
              p.MatchesPrefix text x stop := by
  have hR := Parts.leave_suffix known
  refine ⟨fun a rest houtcome => ?_, fun β g' text hvisit => hvisit.related hR hbody hg,
    fun β p i text hvisit s b rest hs houtcome => ?_⟩
  · have hleaves : g.Leaves body input rest := ⟨r, a, h, houtcome⟩
    exact hleaves.related hR hbody hg
  · have hp : p.Anchored := hvisit.builtFrom hbody hg
    obtain ⟨depth, hs⟩ := hs
    obtain rfl := Option.some.inj hs
    rw [Run.outcome_ofPattern] at houtcome
    obtain ⟨x, hx, heq⟩ := Option.map_eq_some_iff.mp houtcome
    obtain ⟨rfl, rfl⟩ := Prod.mk.inj heq
    obtain ⟨stop, htaken⟩ := hp.matchesPrefix hx
    exact ⟨x, stop, hx, rfl, rfl, htaken⟩

/-- All `b` at the start of a text and one more character, where `b` stands behind it once more. -/
theorem prefixes_taken_letters :
    ∃ (p : Pattern) (body : Unit → Grammar (fun _ : Unit => Unit) Unit) (r : Run Unit Char),
      Pattern.compile .caseSensitive ['^', 'b'] = .ok p ∧
        body () = .orElse (.keepRight (.regex p (.constant ())) (.lazy ())) (.pure ()) ∧
        (Grammar.keepRight (.lazy ()) .anyChar).Gives body ['b', 'a', 'b', 'c'] r ∧
        r.outcome = some ('a', ['b', 'c']) ∧ ['b', 'c'] <:+ ['b', 'a', 'b', 'c'] := by
  let p : Pattern := ⟨['^', 'b'], .ofExpr (.cat (.assertion .textStart) (.chars (.letter .exact 'b'.toNat))) 0⟩
  let body : Unit → Grammar (fun _ : Unit => Unit) Unit := fun _ =>
    .orElse (.keepRight (.regex p (.constant ())) (.lazy ())) (.pure ())
  have hcompile : Pattern.compile .caseSensitive ['^', 'b'] = .ok p := by rfl
  have hp : p.Anchored :=
    ⟨_, _, _, hcompile, rfl, Regex.Tree.anchored_concat rfl _ _ _⟩
  have hbody (name : Unit) (_ : True) : (body name).BuiltFrom (.anchored fun _ => True) :=
    ⟨trivial, ⟨hp, trivial⟩, trivial⟩
  have hg : (Grammar.keepRight (.lazy ()) .anyChar : Grammar (fun _ : Unit => Unit) Char).BuiltFrom
      (.anchored fun _ => True) := ⟨trivial, functions_anchored (α := Unit).2.1⟩
  obtain ⟨r, hrun, houtcome⟩ : ∃ r, (Grammar.keepRight (.lazy ()) .anyChar).Gives body ['b', 'a', 'b', 'c'] r ∧
      r.outcome = some ('a', ['b', 'c']) := ⟨_, ⟨2, rfl⟩, rfl⟩
  exact ⟨p, body, r, hcompile, rfl, hrun, houtcome, (hg.prefixes_taken hbody hrun).1 _ _ houtcome⟩

end Grammar

end PatternGrammar
