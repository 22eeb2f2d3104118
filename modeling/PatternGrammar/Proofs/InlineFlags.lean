import PatternGrammar.Proofs.Extraction
import PatternGrammar.Proofs.Regex.Headed
import PatternGrammar.Proofs.Regex.Reading

/-!
# Options and inline flags

A pattern with the flags of some options written in front of it means under any options what the pattern alone means
under those (`Pattern.extract_inlineFlags`).
-/

namespace PatternGrammar

open Regex

namespace Config

/-- The letters of the flags that are options, and how they are set. -/
def switches (c : Config) : List (Char × Bool) :=
  [('i', c.caseInsensitive), ('m', c.multiLine), ('s', c.dotMatchesNewLine)]

/-- The letters of the flags that are on, or of those that are off. -/
def flagLetters (c : Config) (on : Bool) : Text :=
  (c.switches.filter (·.2 == on)).map (·.1)

/-- The inline flags that say what the options say, such as `(?i-ms)`. -/
def inlineFlags (c : Config) : Text :=
  let off := c.flagLetters false
  ['(', '?'] ++ c.flagLetters true ++ (if off.isEmpty then [] else '-' :: off) ++ [')']

/-- The head that is written for some options is read as settings that, under any options, leave the flags of those. -/
theorem readGroupHead_inlineFlags (c : Config) (text : List Char) :
    ∃ settings, readGroupHead false [] (c.inlineFlags ++ text) = .ok (.setFlags settings, text) ∧
      settingOf? .ignoreWhitespace settings = none ∧ ∀ outer : Config, outer.flags.setAll settings = c.flags := by
  obtain ⟨i, m, s, _, _⟩ := c
  -- the head is one of eight
  cases i <;> cases m <;> cases s <;> exact ⟨_, rfl, rfl, fun _ => rfl⟩

end Config

/-- A pattern that is read is read behind inline flags too. -/
theorem headed_of_ofText (c : Config) {pattern : Text} {tree : Tree} (h : Tree.ofText pattern = .ok tree) :
    ∃ span settings tree', Tree.ofText (c.inlineFlags ++ pattern) = .ok tree' ∧
      Tree.Headed (.flags span settings) tree tree' ∧
      ∀ outer : Config, outer.flags.setAll settings = c.flags := by
  obtain ⟨settings, hhead, hignoring, hflags⟩ := c.readGroupHead_inlineFlags pattern
  obtain ⟨rest, hrest⟩ : ∃ rest, c.inlineFlags ++ pattern = '(' :: rest := ⟨_, rfl⟩
  have hlength : pattern.length < (c.inlineFlags ++ pattern).length := by
    simp [Config.inlineFlags]
    omega
  -- the head is read first, which leaves fuel enough for the pattern behind it
  unfold Tree.ofText at h ⊢
  rw [readBody_fuel (Nat.lt_succ_self _) hlength] at h
  have hstack : HeadedStack (.flags (.between (c.inlineFlags ++ pattern) pattern) settings)
      [.start none false pattern]
      [(Frame.start none false (c.inlineFlags ++ pattern)).push
        (.flags (.between (c.inlineFlags ++ pattern) pattern) settings)] :=
    .bottom (.first false _ _ _ _ [])
  obtain ⟨tree', htree', hheaded⟩ := headed_of_readBody hstack h
  refine ⟨_, settings, tree', ?_, hheaded, hflags⟩
  rw [← htree']
  rw [hrest] at hhead ⊢
  rw [readBody]
  simp [skipIgnored, Frame.start, hhead, hignoring, Frame.push]

namespace Pattern

/-- Options mean what the inline flags that say the same mean: written in front of a pattern, these take the place of
the options. -/
theorem extract_inlineFlags {c c' : Config} {pattern : Text} {p p' : Pattern} (h : compile c pattern = .ok p)
    (h' : compile c' (c.inlineFlags ++ pattern) = .ok p') (query : Text) : p'.extract query = p.extract query := by
  obtain ⟨tree, e, after, htree, he, hp⟩ := exists_elaborate_of_compile h
  obtain ⟨tree', e', after', htree', he', hp'⟩ := exists_elaborate_of_compile h'
  obtain ⟨span, settings, read, hread, hheaded, hflags⟩ := headed_of_ofText c htree
  obtain rfl : read = tree' := Except.ok.inj (hread.symm.trans htree')
  have hhead : (Tree.flags span settings).elaborate ⟨c'.flags, 1⟩ = .ok (.empty, ⟨c.flags, 1⟩) := by
    rw [Tree.elaborate, hflags]
  -- the programs are those of one expression
  have hsame := hheaded.elaborate hhead he
  obtain ⟨rfl, rfl⟩ := Prod.mk.inj (Except.ok.inj (he'.symm.trans hsame))
  unfold extract
  rw [hp, hp']

/-- Behind a line feed `^a` matches with the flags, however they are given, and does not without them. -/
theorem extract_inlineFlags_lineStart : ∃ p p' q,
    compile { Config.caseSensitive with multiLine := true } ['b', '|', '^', 'a'] = .ok p ∧
    compile .standard ['(', '?', 'm', '-', 'i', 's', ')', 'b', '|', '^', 'a'] = .ok p' ∧
    compile .standard ['b', '|', '^', 'a'] = .ok q ∧
    p.extract ['B', '\n', 'a'] = some ⟨['B', '\n'], []⟩ ∧ p'.extract ['B', '\n', 'a'] = some ⟨['B', '\n'], []⟩ ∧
    q.extract ['B', '\n', 'a'] = some ⟨['\n', 'a'], []⟩ ∧ q.extract ['\n', 'a'] = none ∧
    ∀ query : Text, p'.extract query = p.extract query := by
  obtain ⟨p, hp, hx⟩ :
      ∃ p, compile { Config.caseSensitive with multiLine := true } ['b', '|', '^', 'a'] = .ok p ∧
        p.extract ['B', '\n', 'a'] = some ⟨['B', '\n'], []⟩ := ⟨_, by rfl, by rfl⟩
  obtain ⟨p', hp'⟩ :
      ∃ p', compile .standard ['(', '?', 'm', '-', 'i', 's', ')', 'b', '|', '^', 'a'] = .ok p' := ⟨_, by rfl⟩
  obtain ⟨q, hq, hcase, hline⟩ : ∃ q, compile .standard ['b', '|', '^', 'a'] = .ok q ∧
      q.extract ['B', '\n', 'a'] = some ⟨['\n', 'a'], []⟩ ∧ q.extract ['\n', 'a'] = none :=
    ⟨_, by rfl, by rfl, by rfl⟩
  have hsame := extract_inlineFlags hp hp'
  exact ⟨p, p', q, hp, hp', hq, hx, (hsame _).trans hx, hcase, hline, hsame⟩

end Pattern

end PatternGrammar
