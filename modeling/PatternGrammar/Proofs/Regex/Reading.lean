import Mathlib.Data.List.TakeDrop
import PatternGrammar.Proofs.Regex.WellFormed

/-!
# How far reading goes

Every reader of a pattern leaves a text shorter than the one it was given. The fuel of `readBody` therefore lasts for
the whole pattern, and how much there is of it beyond that makes no difference (`readBody_fuel`).
-/

namespace PatternGrammar.Regex

/-! ## What a reader leaves -/

/-- What a reader leaves, unless it refuses the text, is shorter than `n`. -/
def Reading.LeavesLess {α : Type} (n : Nat) : Reading α → Prop
  | .ok (_, rest) => rest.length < n
  | .error _ => True

section

variable {α : Type} {m n : Nat}

@[simp, grind =]
theorem leavesLess_ok {a : α} {rest : List Char} :
    Reading.LeavesLess n (.ok (a, rest)) ↔ rest.length < n := Iff.rfl

@[simp, grind =]
theorem leavesLess_refuseAt {fault : Fault} {span : Span} :
    Reading.LeavesLess (α := α) n (refuseAt fault span) ↔ True := Iff.rfl

@[simp, grind =]
theorem leavesLess_refuse {fault : Fault} {start rest : List Char} :
    Reading.LeavesLess (α := α) n (refuse fault start rest) ↔ True := Iff.rfl

@[simp, grind =]
theorem leavesLess_refuseRepeat {fault : Fault} {span earlier : Span} :
    Reading.LeavesLess (α := α) n (refuseRepeat fault span earlier) ↔ True := Iff.rfl

@[simp, grind =]
theorem leavesLess_error {e : SyntaxError} : Reading.LeavesLess (α := α) n (.error e) ↔ True := Iff.rfl

theorem Reading.LeavesLess.mono {r : Reading α} (h : r.LeavesLess m) (hmn : m ≤ n) : r.LeavesLess n := by
  match r with
  | .ok (_, _) => exact Nat.lt_of_lt_of_le h hmn
  | .error _ => exact trivial

end

theorem length_takeVisible_le (ignoring : Bool) (stop : Char → Bool) (inComment : Bool) (text : List Char) :
    (takeVisible ignoring stop inComment text).2.length ≤ text.length := by
  fun_induction takeVisible ignoring stop inComment text with
  | case1 => exact Nat.le_refl _
  | case5 => exact Nat.le_refl _
  | case2 | case3 | case4 =>
    rename_i ih
    exact Nat.le_succ_of_le ih
  | case6 =>
    rename_i h ih
    rw [h] at ih
    exact Nat.le_succ_of_le ih

variable {ignoring : Bool}

/-! ## Atoms -/

/-- A character that is found behind ignored text has been read. -/
theorem length_of_skipIgnored {text rest : List Char} {c : Char} (h : skipIgnored ignoring text = c :: rest) :
    rest.length < text.length := by
  have hle := length_skipIgnored_le ignoring text
  rw [h, List.length_cons] at hle
  exact hle

theorem leavesLess_readHexDigits (more value : Nat) (text : List Char) :
    (readHexDigits ignoring more value text).LeavesLess text.length := by
  fun_induction readHexDigits ignoring more value text with
  | case1 | case2 => exact trivial
  | case3 value c cs => exact Nat.lt_succ_of_le (length_skipIgnored_le ignoring cs)
  | case4 value c cs d hd rest more ih =>
    exact ih.mono (Nat.le_succ_of_le (length_skipIgnored_le ignoring cs))

theorem leavesLess_readHex (start : List Char) (kind : Char) (text : List Char) :
    (readHex ignoring start kind text).LeavesLess text.length := by
  unfold readHex
  grind [leavesLess_readHexDigits, length_skipIgnored_le, length_takeVisible_le]

theorem leavesLess_readProperty (start : List Char) (negated : Bool) (text : List Char) :
    (readProperty ignoring start negated text).LeavesLess text.length := by
  unfold readProperty
  grind [length_skipIgnored_le, length_takeVisible_le]

theorem leavesLess_readBoundaryName (start text : List Char) :
    (readBoundaryName ignoring start text).LeavesLess (text.length + 1) := by
  unfold readBoundaryName
  grind [length_skipIgnored_le, length_takeVisible_le]

/-- Every escape reads at least one character. -/
theorem leavesLess_readEscape (start text : List Char) : (readEscape ignoring start text).LeavesLess text.length := by
  cases text with
  | nil => exact trivial
  | cons c rest =>
    have hrest : rest.length < (c :: rest).length := Nat.lt_succ_self _
    have hhex := @leavesLess_readHex ignoring start c rest
    have hname := @leavesLess_readBoundaryName ignoring start rest
    rw [readEscape]
    split
    · exact trivial
    · split
      · -- a character by its number
        split
        · exact trivial
        · next hread =>
          rw [hread] at hhex
          exact Nat.lt_trans hhex hrest
      · split
        · exact (leavesLess_readProperty start _ rest).mono (Nat.le_of_lt hrest)
        · split
          · -- a word boundary, which may have a name
            split
            · exact trivial
            · next hread =>
              rw [hread] at hname
              exact hname
          · -- one character behind the backslash
            dsimp only
            split
            · exact hrest
            · exact hrest
            · exact hrest
            · split
              · exact hrest
              · exact trivial

theorem leavesLess_readLiteralOrEscape (text : List Char) :
    (readLiteralOrEscape ignoring text).LeavesLess text.length := by
  cases text with
  | nil => exact trivial
  | cons c rest =>
    rw [readLiteralOrEscape]
    split
    · exact (leavesLess_readEscape _ rest).mono (Nat.le_succ _)
    · exact Nat.lt_succ_self _

/-- Every atom reads at least one character. -/
theorem leavesLess_readAtom (text : List Char) : (readAtom ignoring text).LeavesLess text.length := by
  unfold readAtom
  grind [leavesLess_readLiteralOrEscape]

/-! ## Classes -/

/-- A name in colons ends before the bracket that closes it. -/
theorem length_of_readNamedClass {text rest : List Char} {item : ClassTree}
    (h : readNamedClass? text = some (item, rest)) : rest.length < text.length := by
  have hname (inner : List Char) : (inner.dropWhile (· != ':')).length ≤ inner.length :=
    (List.dropWhile_suffix _).length_le
  unfold readNamedClass? at h
  split at h
  · next inner =>
    split at h
    split at h
    · next body hbody _ _ after hspan =>
      obtain ⟨kind, -, heq⟩ := Option.map_eq_some_iff.mp h
      have hlength := hname body
      rw [List.span_eq_takeWhile_dropWhile, Prod.mk.injEq] at hspan
      rw [hspan.2] at hlength
      have hinner : body.length ≤ inner.length := by
        split at hbody
        · rw [← (Prod.mk.inj hbody).2]
          exact Nat.le_succ _
        · exact Nat.le_of_eq (congrArg List.length (Prod.mk.inj hbody).2.symm)
      rw [← (Prod.mk.inj heq).2]
      simp only [List.length_cons] at hlength ⊢
      omega
    · contradiction
  · contradiction

theorem leavesLess_readClassItem (opening : Span) (text : List Char) :
    (readClassItem ignoring opening text).LeavesLess text.length := by
  have hlo := @leavesLess_readLiteralOrEscape ignoring text
  unfold readClassItem
  split
  · exact trivial
  · next lo rest hread =>
    rw [hread, leavesLess_ok] at hlo
    have hskip := length_skipIgnored_le ignoring rest
    split
    · exact trivial
    · next c cs hvisible =>
      rw [hvisible] at hskip
      dsimp only
      split
      · -- an atom
        split
        · exact trivial
        · exact Nat.lt_of_le_of_lt hskip hlo
      · -- a range, which goes on behind its dash
        have hskip' := length_skipIgnored_le ignoring cs
        rw [List.length_cons] at hskip
        split
        · exact trivial
        · next d ds hvisible' =>
          have hhi := @leavesLess_readLiteralOrEscape ignoring (d :: ds)
          rw [hvisible'] at hskip'
          split
          · exact trivial
          · next hi after hread' =>
            rw [hread', leavesLess_ok] at hhi
            split
            · exact trivial
            · split
              · exact trivial
              · split
                · exact trivial
                · rw [leavesLess_ok]
                  omega

theorem length_leadingDashes_le (fuel : Nat) (items : List ClassTree) (text : List Char) :
    (leadingDashes ignoring fuel items text).2.length ≤ text.length := by
  fun_induction leadingDashes ignoring fuel items text with
  | case1 fuel items rest ih =>
    exact Nat.le_trans ih (Nat.le_succ_of_le (length_skipIgnored_le ignoring rest))
  | case2 => exact Nat.le_refl _

theorem leavesLess_openClass (text : List Char) : (openClass ignoring text).LeavesLess text.length := by
  have hskip := length_skipIgnored_le ignoring (text.drop 1)
  rw [List.length_drop] at hskip
  unfold openClass
  split
  · exact trivial
  · next c cs hvisible =>
    rw [hvisible, List.length_cons] at hskip
    dsimp only
    split
    · exact trivial
    · next d ds hinside =>
      have hinner : (d :: ds).length ≤ (c :: cs).length := by
        rw [← hinside]
        split
        · exact Nat.le_succ_of_le (length_skipIgnored_le ignoring cs)
        · exact Nat.le_refl _
      have hdashes := @length_leadingDashes_le ignoring (ds.length + 1) [] (d :: ds)
      rw [List.length_cons (a := c)] at hinner
      split
      · exact trivial
      · next e es hrest =>
        rw [hrest, List.length_cons (a := e)] at hdashes
        split
        · have hskip' := length_skipIgnored_le ignoring es
          split
          · exact trivial
          · next f fs hvisible' =>
            rw [hvisible'] at hskip'
            rw [leavesLess_ok]
            omega
        · rw [leavesLess_ok, hrest, List.length_cons]
          omega

theorem length_of_setOperator {text rest : List Char} {operator : SetOperator}
    (h : setOperator? text = some (operator, rest)) : rest.length < text.length := by
  unfold setOperator? at h
  grind

/-- A class reads at least one character more in each step, which its fuel counts. -/
theorem leavesLess_readClassBody (fuel : Nat) (frame : ClassFrame) (outer : List ClassFrame) (text : List Char) :
    (readClassBody ignoring fuel frame outer text).LeavesLess text.length := by
  fun_induction readClassBody ignoring fuel frame outer text with
  | case1 | case2 | case4 | case9 => exact trivial
  | case3 fuel frame outer text c rest hvisible hopen item after hnamed ih =>
    have hle := length_skipIgnored_le ignoring text
    have hlt := length_of_readNamedClass hnamed
    rw [hvisible] at hle
    exact ih.mono (by omega)
  | case5 fuel frame outer text c rest hvisible hopen hnamed inner after hinner ih =>
    have hle := length_skipIgnored_le ignoring text
    have hlt := @leavesLess_openClass ignoring (c :: rest)
    rw [hvisible] at hle
    rw [hinner, leavesLess_ok] at hlt
    exact ih.mono (by omega)
  | case6 fuel frame text c rest hvisible =>
    exact length_of_skipIgnored hvisible
  | case7 fuel frame text c rest hvisible hopen hclose span f fs ih =>
    exact ih.mono (Nat.le_of_lt (length_of_skipIgnored hvisible))
  | case8 fuel frame outer text c rest hvisible hopen hclose operator after hoperator ih =>
    have hle := length_skipIgnored_le ignoring text
    have hlt := length_of_setOperator hoperator
    rw [hvisible] at hle
    exact ih.mono (by omega)
  | case10 fuel frame outer text c rest hvisible hopen hclose hoperator item after hitem ih =>
    have hle := length_skipIgnored_le ignoring text
    have hlt := @leavesLess_readClassItem ignoring frame.opening (c :: rest)
    rw [hvisible] at hle
    rw [hitem, leavesLess_ok] at hlt
    exact ih.mono (by omega)

/-- A class reads at least its brackets. -/
theorem leavesLess_readClass (text : List Char) : (readClass ignoring text).LeavesLess text.length := by
  unfold readClass
  grind [leavesLess_openClass, leavesLess_readClassBody, Reading.LeavesLess.mono]

/-! ## Counts -/

theorem length_readCount_le (text : List Char) : (readCount ignoring text).2.length ≤ text.length := by
  unfold readCount
  grind [List.IsSuffix.length_le, List.dropWhile_suffix, length_takeVisible_le]

theorem leavesLess_readRange (start : List Char) (first : Except SyntaxError Nat) (text : List Char) :
    (readRange ignoring start first text).LeavesLess (text.length + 1) := by
  unfold readRange
  split
  · exact trivial
  · next c cs =>
    split
    · split
      · exact trivial
      · next d ds hvisible =>
        have hlt := length_of_skipIgnored hvisible
        have hcount := @length_readCount_le ignoring (d :: ds)
        split
        · exact trivial
        · split
          · simp only [leavesLess_ok, List.length_cons]
            omega
          · split
            · exact trivial
            · next hread =>
              rw [hread] at hcount
              simp only [leavesLess_ok, List.length_cons] at hcount ⊢
              omega
    · split
      · exact trivial
      · exact Nat.lt_succ_self _

theorem leavesLess_readCounts (text : List Char) : (readCounts ignoring text).LeavesLess text.length := by
  unfold readCounts
  grind [length_readCount_le, length_skipIgnored_le, leavesLess_readRange]

theorem length_readOperator_le (operator : Char) (text : List Char) :
    (readOperator operator text).2.length ≤ text.length := by
  unfold readOperator
  grind

/-! ## Heads -/

theorem leavesLess_readFlagItems (seen : List (FlagItem × Span)) (text : List Char) :
    (readFlagItems seen text).LeavesLess (text.length + 1) := by
  fun_induction readFlagItems seen text <;> grind [Reading.LeavesLess.mono]

theorem leavesLess_readNameChars (first : Bool) (text : List Char) :
    (readNameChars first text).LeavesLess (text.length + 1) := by
  fun_induction readNameChars first text <;> grind [Reading.LeavesLess.mono]

theorem leavesLess_readName (given : List (List Char × Span)) (text : List Char) :
    (readName given text).LeavesLess (text.length + 1) := by
  unfold readName
  grind [leavesLess_readNameChars]

theorem length_of_after {mark text rest : List Char} (h : after? mark text = some rest) :
    rest.length ≤ text.length := by
  unfold after? at h
  split at h
  · rw [← Option.some.inj h, List.length_drop]
    exact Nat.sub_le _ _
  · contradiction

/-- The parenthesis at least is behind what is left. -/
theorem leavesLess_readGroupHead (given : List (List Char × Span)) (c : Char) (text : List Char) :
    (readGroupHead ignoring given (c :: text)).LeavesLess (c :: text).length := by
  have hskip : (skipIgnored ignoring text).length < (c :: text).length :=
    Nat.lt_succ_of_le (length_skipIgnored_le ignoring text)
  unfold readGroupHead
  rw [List.drop_succ_cons, List.drop_zero]
  dsimp only
  generalize skipIgnored ignoring text = inner at hskip ⊢
  split
  · exact trivial
  · split
    · next mark hmark =>
      -- a name, whose mark is the longer one or the shorter one
      have hle : mark.length ≤ inner.length := by
        rcases Option.or_eq_some_iff.mp hmark with h | ⟨-, h⟩
        · exact length_of_after h
        · exact length_of_after h
      exact (leavesLess_readName given mark).mono (by omega)
    · split
      · exact trivial
      · -- flags, up to a colon or to the end of the head
        rename_i flags _ _ _
        have hitems := leavesLess_readFlagItems [] flags
        rw [List.length_cons] at hskip
        split
        · exact trivial
        · next items rest hread =>
          have hdrop : (rest.drop 1).length ≤ rest.length := by
            rw [List.length_drop]
            exact Nat.sub_le _ _
          rw [hread, leavesLess_ok] at hitems
          split
          · split
            · exact trivial
            · rw [leavesLess_ok]
              omega
          · rw [leavesLess_ok]
            omega
      · exact hskip

/-! ## Fuel -/

/-- A text is read in full when there is fuel for each of its characters, and more fuel changes nothing. -/
theorem readBody_fuel {fuel fuel' : Nat} {frame : Frame} {outer : List Frame} {names : List (List Char × Span)}
    {text : List Char} (h : text.length < fuel) (h' : text.length < fuel') :
    readBody fuel frame outer names text = readBody fuel' frame outer names text := by
  induction fuel generalizing fuel' frame outer names text with
  | zero => exact absurd h (Nat.not_lt_zero _)
  | succ fuel ih =>
    obtain ⟨fuel', rfl⟩ : ∃ m, fuel' = m + 1 := ⟨fuel' - 1, by omega⟩
    have hskip := length_skipIgnored_le frame.ignoring text
    unfold readBody
    split
    · rfl
    · next c rest hvisible =>
      rw [hvisible] at hskip
      have hself (frame : Frame) (outer : List Frame) (names : List (List Char × Span)) :
          readBody fuel frame outer names rest = readBody fuel' frame outer names rest := by
        rw [List.length_cons] at hskip
        exact ih (by omega) (by omega)
      -- what a reader leaves of the text is shorter than the text
      have hread {α : Type} {r : Reading α} {a : α} {after : List Char} (hr : r.LeavesLess (c :: rest).length)
          (heq : r = .ok (a, after)) (frame : Frame) (outer : List Frame) (names : List (List Char × Span)) :
          readBody fuel frame outer names after = readBody fuel' frame outer names after := by
        rw [heq, leavesLess_ok] at hr
        exact ih (by omega) (by omega)
      dsimp only
      split
      · -- a group is opened
        have hhead := @leavesLess_readGroupHead frame.ignoring names c rest
        split
        · rfl
        · next heq => exact hread hhead heq _ _ _
        · next heq => exact hread hhead heq _ _ _
        · next heq => exact hread hhead heq _ _ _
        · next heq => exact hread hhead heq _ _ _
      · split
        · -- a group is closed
          split
          · exact hself _ _ _
          · rfl
        · split
          · -- the next branch
            exact hself _ _ _
          · split
            · -- a class
              split
              · rfl
              · next heq => exact hread (leavesLess_readClass _) heq _ _ _
            · split
              · -- a repetition by an operator, or by counts
                split
                · rfl
                · have hoperator := length_readOperator_le c rest
                  rw [List.length_cons] at hskip
                  exact ih (by omega) (by omega)
              · split
                · split
                  · rfl
                  · split
                    · rfl
                    · next heq => exact hread (leavesLess_readCounts _) heq _ _ _
                · -- an atom
                  split
                  · rfl
                  · next heq => exact hread (leavesLess_readAtom _) heq _ _ _

end PatternGrammar.Regex
