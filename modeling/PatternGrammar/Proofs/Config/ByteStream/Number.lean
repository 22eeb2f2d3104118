import PatternGrammar.Config.ByteStream.Number
import PatternGrammar.Proofs.Config.ByteStream

/-!
# Numbers in streams

A cursor sees all digits of a number at once and divides them into those that fit and the others; a stream finds out
digit by digit. Both end behind the last digit, with the byte that ends the number looked at.
-/

namespace PatternGrammar.Config

variable {α β : Type} {c : Cursor} {r : Except Failure (β × Cursor)}

/-! ## Digits -/

namespace Cursor

theorem eatMany_add (m n : Nat) (c : Cursor) : c.eatMany (m + n) = (c.eatMany m).eatMany n := by
  induction m generalizing c with
  | zero => rw [Nat.zero_add, eatMany]
  | succ m ih => rw [Nat.succ_add, eatMany, ih, eatMany]

/-- It makes no difference whether the first byte has been looked at when it is taken. -/
theorem look_eatMany (n : Nat) (c : Cursor) : (c.look.eatMany n).look = (c.eatMany n).look := by
  induction n generalizing c with
  | zero => rfl
  | succ n ih =>
    rw [eatMany, eatMany]
    cases hhead : c.head? with
    | none => rw [eat_of_head?_none hhead, eat_of_head?_none (c := c.look) hhead, ih]
    | some b => rw [eat_look hhead]

end Cursor

/-- Digits that have been taken are those in front, so the others come next. -/
theorem takeWhile_drop {p : UInt8 → Bool} {bytes taken left : List UInt8} (h : bytes.takeWhile p = taken ++ left) :
    (bytes.drop taken.length).takeWhile p = left := by
  induction taken generalizing bytes with
  | nil => exact h
  | cons d taken ih =>
    cases bytes with
    | nil => contradiction
    | cons b bytes =>
      by_cases hb : p b = true
      · rw [List.takeWhile_cons_of_pos hb, List.cons_append] at h
        exact ih (List.cons.inj h).2
      · rw [List.takeWhile_cons_of_neg hb] at h
        contradiction

theorem any_head? (p : UInt8 → Bool) (bytes : List UInt8) : bytes.head?.any p = !(bytes.takeWhile p).isEmpty := by
  cases bytes with
  | nil => rfl
  | cons b bytes => by_cases hb : p b = true <;> simp [hb]

/-- A first digit fits below any limit of the format. -/
theorem absorb_first {most : Nat} (hmost : 9 ≤ most) {d : UInt8} (hd : isDigit d = true) (digits : List UInt8) :
    absorb most 0 (d :: digits) = absorb most (d.toNat - 0x30) digits := by
  have hfits : ¬ 0 * 10 + (d.toNat - 0x30) > most := by
    simp only [isDigit, decide_eq_true_eq] at hd
    omega
  rw [absorb, if_neg hfits, Nat.zero_mul, Nat.zero_add]

theorem takeDigits_of_first {first : UInt8} (hhead : c.head? = some first) (hfirst : isDigit first = true) :
    takeDigits c = (first :: (takeDigits c.eat).1, (takeDigits c.eat).2) := by
  rw [takeDigits, Cursor.rest_eq_of_head? hhead, List.takeWhile_cons_of_pos hfirst]
  rfl

/-- Of the digits in front of a cursor a stream takes those that fit, and leaves the same ones as a cursor does. -/
theorem absorbFrom_stream {most fuel n count : Nat} (hfuel : c.rest.length < fuel) :
    ∃ fitting, c.rest.takeWhile isDigit = fitting ++ (absorb most n (c.rest.takeWhile isDigit)).2 ∧
      FromStream.absorbFrom most fuel n count c.stream =
        .ok (((absorb most n (c.rest.takeWhile isDigit)).1, count + fitting.length),
          (c.eatMany fitting.length).look.stream) := by
  induction fuel generalizing c n count with
  | zero => omega
  | succ fuel ih =>
    rw [FromStream.absorbFrom, bind_of_ok (peek_stream c)]
    cases hhead : c.head? with
    | none =>
      rw [Cursor.rest_of_head?_none hhead]
      exact ⟨[], rfl, rfl⟩
    | some d =>
      have hrest := Cursor.rest_eq_of_head? hhead
      by_cases hd : isDigit d = true
      · rw [hrest, List.takeWhile_cons_of_pos hd, absorb]
        by_cases hfits : n * 10 + (d.toNat - 0x30) > most
        · refine ⟨[], by rw [if_pos hfits]; rfl, ?_⟩
          simp only [hd, hfits, Nat.not_le.mpr hfits, decide_false, Bool.and_false, Bool.false_eq_true, if_false,
            if_true]
          rfl
        · have hshorter : c.eat.rest.length < fuel := by
            rw [hrest, List.length_cons] at hfuel
            omega
          obtain ⟨fitting, hdigits, hstream⟩ := @ih _ (n * 10 + (d.toNat - 0x30)) (count + 1) hshorter
          refine ⟨d :: fitting, by rw [if_neg hfits, List.cons_append, ← hdigits], ?_⟩
          simp only [hd, hfits, Nat.le_of_not_gt hfits, decide_true, Bool.and_true, if_false, if_true]
          rw [bind_of_ok (discard_stream rfl), Cursor.eat_look hhead, hstream, List.length_cons, Cursor.eatMany,
            Nat.add_assoc, Nat.add_comm 1]
      · rw [hrest, List.takeWhile_cons_of_neg hd]
        refine ⟨[], rfl, ?_⟩
        simp only [hd, Bool.false_and, Bool.false_eq_true, if_false]
        rfl

theorem follows_absorb {most n : Nat} {g : Nat × Nat → FromStream β}
    (hg : ∀ m fitting dropped, (takeDigits c).1 = fitting ++ dropped → absorb most n (takeDigits c).1 = (m, dropped) →
      Follows (g (m, fitting.length)) (c.eatMany fitting.length).look r) :
    Follows (FromStream.absorb most n >>= g) c r := by
  obtain ⟨fitting, hdigits, hstream⟩ := @absorbFrom_stream c most (c.rest.length + 1) n 0 (Nat.lt_succ_self _)
  rw [Nat.zero_add] at hstream
  exact Follows.after (follows_left (g := fun k => FromStream.absorbFrom most (k + 1) n 0) hstream)
    (hg _ fitting _ hdigits rfl)

section Dropped

variable {fitting dropped : List UInt8} {g : Nat → FromStream β}

/-- Behind the digits that fit come the others. -/
theorem takeWhile_dropped (hdigits : (takeDigits c).1 = fitting ++ dropped) :
    (c.eatMany fitting.length).rest.takeWhile isDigit = dropped := by
  rw [Cursor.rest_eatMany, takeWhile_drop hdigits]

theorem eatMany_dropped (hdigits : (takeDigits c).1 = fitting ++ dropped) :
    ((c.eatMany fitting.length).eatMany dropped.length).look = (takeDigits c).2 := by
  rw [← Cursor.eatMany_add, ← List.length_append, ← hdigits, takeDigits]

theorem any_dropped (hdigits : (takeDigits c).1 = fitting ++ dropped) :
    (c.eatMany fitting.length).head?.any isDigit = !dropped.isEmpty := by
  rw [Cursor.head?, any_head?, takeWhile_dropped hdigits]

theorem head?_dropped {d : UInt8} (hdigits : (takeDigits c).1 = fitting ++ d :: dropped) :
    (c.eatMany fitting.length).head? = some d := by
  have hrun := takeWhile_dropped hdigits
  rw [Cursor.head?]
  cases hrest : (c.eatMany fitting.length).rest with
  | nil =>
    rw [hrest] at hrun
    contradiction
  | cons b rest =>
    rw [hrest, List.takeWhile_cons] at hrun
    split at hrun
    · exact congrArg some (List.cons.inj hrun).1
    · contradiction

theorem follows_dropped (hdigits : (takeDigits c).1 = fitting ++ dropped)
    (hg : Follows (g dropped.length) (takeDigits c).2 r) :
    Follows (FromStream.takeWhile isDigit >>= g) (c.eatMany fitting.length).look r := by
  apply follows_takeWhile
  rw [Cursor.rest_look, takeWhile_dropped hdigits, Cursor.look_eatMany, eatMany_dropped hdigits]
  exact hg

end Dropped

/-! ## Numbers that are read -/

/-- The number is computed from the same significand and exponent. -/
theorem floatNumber_follows (negative : Bool) (significand : Nat) (exponent : Int) (c : Cursor) :
    Follows (FromStream.floatNumber negative significand exponent) c (floatNumber negative significand exponent c) := by
  rw [FromStream.floatNumber, floatNumber]
  cases scale? 5 significand.toUInt64.toFloat exponent with
  | none => exact follows_refuse _ c
  | some f => exact follows_pure _ c

theorem takeSign_follows (c : Cursor) : Follows FromStream.takeSign c (.ok (takeSign c)) := by
  rw [FromStream.takeSign, takeSign]
  apply follows_peek
  cases hhead : c.head? with
  | none =>
    show Except.ok _ = Except.ok _
    rw [Cursor.stream_look_of_head?_none hhead]
  | some b =>
    dsimp only
    rw [← Cursor.eat_look hhead]
    by_cases hplus : (b == 0x2B) = true
    · have hminus : (b == 0x2D) = false := by
        rw [eq_of_beq hplus]
        decide
      simp only [hplus, hminus, Bool.true_or, if_true]
      exact follows_discard rfl (follows_pure _ _)
    by_cases hminus : (b == 0x2D) = true
    · simp only [hplus, hminus, Bool.or_true, if_true]
      exact follows_discard rfl (follows_pure _ _)
    · simp only [hplus, hminus, Bool.or_false, Bool.false_eq_true, if_false]
      exact follows_pure _ _

theorem readExponent_follows (negative : Bool) (significand : Nat) (start : Int) (c : Cursor) :
    Follows (FromStream.readExponent negative significand start) c (readExponent negative significand start c) := by
  rw [FromStream.readExponent, readExponent]
  cases htake : takeSign c with
  | mk down c' =>
  have hsign : Follows FromStream.takeSign c (.ok (down, c')) := htake ▸ takeSign_follows c
  apply hsign.after
  apply follows_take
  dsimp only
  cases hhead : c'.head? with
  | none =>
    rw [Cursor.eat_of_head?_none hhead]
    exact follows_refuse _ c'
  | some first =>
    dsimp only
    split
    · exact follows_refuse _ _
    next hfirst =>
    have hdigit : isDigit first = true := by simpa using hfirst
    apply follows_absorb
    intro m fitting dropped hdigits habsorb
    apply follows_peek
    rw [takeDigits_of_first hhead hdigit, absorb_first (by decide) hdigit, habsorb]
    have hany : (c'.eat.eatMany fitting.length).look.head?.any isDigit = !dropped.isEmpty := any_dropped hdigits
    dsimp only
    rw [hany, Bool.not_not]
    cases dropped with
    | nil =>
      have hafter := eatMany_dropped hdigits
      rw [← hafter]
      exact floatNumber_follows _ _ _ _
    | cons d dropped =>
      -- the digit that makes the exponent too large is taken, so the place is behind it
      have hdigits' : (takeDigits c'.eat).1 = (fitting ++ [d]) ++ dropped := by
        rw [hdigits, List.append_assoc, List.singleton_append]
      have hnext : (c'.eat.eatMany fitting.length).look.look.eat = c'.eat.eatMany (fitting ++ [d]).length := by
        rw [Cursor.look_look, Cursor.eat_look (head?_dropped hdigits), List.length_append, Cursor.eatMany_add]
        rfl
      have hbehind : c'.eatMany ((first :: (takeDigits c'.eat).1).length - (d :: dropped).length + 1) =
          c'.eat.eatMany (fitting ++ [d]).length := by
        rw [hdigits, ← Cursor.eatMany]
        congr 1
        simp only [List.length_cons, List.length_append, List.length_nil]
        omega
      rw [List.isEmpty_cons, if_neg Bool.false_ne_true, if_neg Bool.false_ne_true, hbehind]
      apply follows_discard rfl
      rw [hnext]
      split
      · exact follows_refuse _ _
      · apply follows_takeWhile
        rw [takeWhile_dropped hdigits', eatMany_dropped hdigits']
        exact follows_pure _ _

/-- An exponent is looked for at the byte that has been looked at. -/
theorem readScale_follows (negative : Bool) (significand : Nat) (exponent : Int) (hc : c.looked = true) :
    Follows (FromStream.readScale negative significand exponent) c (readScale negative significand exponent c) := by
  rw [FromStream.readScale, readScale]
  apply follows_peek
  rw [Cursor.look_of_looked hc]
  cases hhead : c.head? with
  | none => exact floatNumber_follows _ _ _ c
  | some b =>
    rw [Option.any_some]
    dsimp only
    split
    · exact follows_discard hc (readExponent_follows _ _ _ c.eat)
    · exact floatNumber_follows _ _ _ c

theorem readFraction_follows (negative : Bool) (significand : Nat) (exponent : Int) (c : Cursor) :
    Follows (FromStream.readFraction negative significand exponent) c
      (readFraction negative significand exponent c) := by
  rw [FromStream.readFraction, readFraction]
  apply follows_absorb
  intro m fitting dropped hdigits habsorb
  apply follows_dropped hdigits
  dsimp only
  rw [habsorb, hdigits]
  cases hall : fitting ++ dropped with
  | nil =>
    obtain ⟨rfl, rfl⟩ := List.append_eq_nil_iff.mp hall
    have hafter : (takeDigits c).2 = c.look := (eatMany_dropped hdigits).symm
    have hlook : c.look.head? = c.head? := rfl
    rw [hafter, List.isEmpty_nil, if_pos rfl, List.length_nil, if_pos rfl]
    apply follows_peek
    rw [hlook]
    -- there may be no byte at all, or one that is no digit
    cases c.head? <;> exact follows_refuseNext (c := c.look) _ rfl
  | cons d digits =>
    have hcount : fitting.length + dropped.length ≠ 0 := by
      rw [← List.length_append, hall, List.length_cons]
      omega
    have hfitting : (d :: digits).length - dropped.length = fitting.length := by
      rw [← hall, List.length_append, Nat.add_sub_cancel]
    rw [if_neg hcount, List.isEmpty_cons, if_neg Bool.false_ne_true]
    dsimp only
    rw [hfitting]
    exact readScale_follows _ _ _ rfl

/-- What comes behind the digits before the point, of which the last ones did not fit. -/
theorem readAfterWhole_follows (negative : Bool) (n : Nat) (dropped : List UInt8) (hc : c.looked = true) :
    Follows (FromStream.readAfterWhole negative n dropped.length) c
      (match c.head? with
      | some b =>
        if b == 0x2E then readFraction negative n dropped.length c.eat
        else if isExponentMark b then readExponent negative n dropped.length c.eat
        else if dropped.isEmpty then .ok (integer negative n, c)
        else floatNumber negative n dropped.length c
      | none =>
        if dropped.isEmpty then .ok (integer negative n, c)
        else floatNumber negative n dropped.length c) := by
  have hend : Follows
      (if dropped.length = 0 then pure (integer negative n) else FromStream.floatNumber negative n dropped.length) c
      (if dropped.isEmpty then .ok (integer negative n, c) else floatNumber negative n dropped.length c) := by
    cases dropped with
    | nil => exact follows_pure _ c
    | cons d dropped => exact floatNumber_follows _ _ _ c
  rw [FromStream.readAfterWhole]
  apply follows_peek
  rw [Cursor.look_of_looked hc]
  cases hhead : c.head? with
  | none => exact hend
  | some b =>
    rw [Option.any_some]
    simp only [Option.some.injEq, beq_iff_eq]
    split
    · exact follows_discard hc (readFraction_follows _ _ _ c.eat)
    split
    · exact follows_discard hc (readExponent_follows _ _ _ c.eat)
    · exact hend

/-- A number is read from a stream as it is at a cursor, although the digits are not gathered first. -/
theorem readNumber_follows (negative : Bool) (c : Cursor) :
    Follows (FromStream.readNumber negative) c (readNumber negative c) := by
  rw [FromStream.readNumber, readNumber]
  apply follows_take
  cases hhead : c.head? with
  | none =>
    rw [Cursor.eat_of_head?_none hhead]
    exact follows_refuse _ c
  | some first =>
    dsimp only
    split
    · exact follows_refuse _ _
    next hfirst =>
    have hdigit : isDigit first = true := by simpa using hfirst
    by_cases hzero : (first == 0x30) = true
    · have habsorb : absorb maxInteger 0 [first] = (0, []) := by
        rw [eq_of_beq hzero]
        decide
      rw [takeWhole, if_pos hzero, if_pos hzero, hzero, Bool.true_and]
      dsimp only
      rw [habsorb]
      apply follows_peek
      have hlook : c.eat.look.head? = c.eat.head? := rfl
      rw [hlook]
      split
      · exact follows_refuseNext (c := c.eat.look) _ rfl
      · exact readAfterWhole_follows negative 0 [] (c := c.eat.look) rfl
    · rw [takeWhole, if_neg hzero, if_neg hzero, takeDigits_of_first hhead hdigit]
      dsimp only
      rw [absorb_first (by decide) hdigit]
      apply follows_absorb
      intro m fitting dropped hdigits habsorb
      apply follows_dropped hdigits
      rw [habsorb]
      simp only [hzero, Bool.false_and, Bool.false_eq_true, if_false]
      exact readAfterWhole_follows negative m dropped rfl

/-! ## Numbers that are skipped -/

theorem skipExponent_passes (c : Cursor) : Passes FromStream.skipExponent c (skipExponent c) := by
  rw [FromStream.skipExponent, skipExponent]
  cases htake : takeSign c with
  | mk down c' =>
  have hsign : Follows FromStream.takeSign c (.ok (down, c')) := htake ▸ takeSign_follows c
  apply hsign.after
  apply follows_take
  dsimp only
  cases hhead : c'.head? with
  | none =>
    rw [Cursor.eat_of_head?_none hhead]
    exact passes_refuse _ c'
  | some first =>
    rw [Option.any_some]
    dsimp only
    split
    next hfirst =>
      rw [takeDigits_of_first hhead hfirst]
      exact follows_takeWhile (passes_pure _)
    next => exact passes_refuse _ _

theorem skipScale_passes (hc : c.looked = true) : Passes FromStream.skipScale c (skipScale c) := by
  rw [FromStream.skipScale, skipScale]
  apply follows_peek
  rw [Cursor.look_of_looked hc]
  cases hhead : c.head? with
  | none => exact passes_pure c
  | some b =>
    rw [Option.any_some]
    dsimp only
    split
    · exact follows_discard hc (skipExponent_passes c.eat)
    · exact passes_pure c

theorem skipFraction_passes (c : Cursor) : Passes FromStream.skipFraction c (skipFraction c) := by
  rw [FromStream.skipFraction, skipFraction, takeDigits]
  apply follows_takeWhile
  cases hdigits : c.rest.takeWhile isDigit with
  | nil => exact passes_refuseNext (c := c.look) _ rfl
  | cons d digits => exact skipScale_passes rfl

theorem skipAfterWhole_passes (hc : c.looked = true) :
    Passes FromStream.skipAfterWhole c
      (match c.head? with
      | some b => if b == 0x2E then skipFraction c.eat else skipScale c
      | none => .ok c) := by
  rw [FromStream.skipAfterWhole]
  apply follows_peek
  rw [Cursor.look_of_looked hc]
  cases hhead : c.head? with
  | none =>
    have hscale := skipScale_passes hc
    rwa [skipScale, hhead] at hscale
  | some b =>
    simp only [Option.some.injEq, beq_iff_eq]
    split
    · exact follows_discard hc (skipFraction_passes c.eat)
    · exact skipScale_passes hc

/-- A number is skipped in a stream as it is at a cursor. -/
theorem skipNumber_passes (c : Cursor) : Passes FromStream.skipNumber c (skipNumber c) := by
  rw [FromStream.skipNumber, skipNumber]
  apply follows_take
  cases hhead : c.head? with
  | none =>
    rw [Cursor.eat_of_head?_none hhead]
    exact passes_refuse _ c
  | some first =>
    dsimp only
    split
    · exact passes_refuse _ _
    next hfirst =>
    have hdigit : isDigit first = true := by simpa using hfirst
    by_cases hzero : (first == 0x30) = true
    · have hlook : c.eat.look.head? = c.eat.head? := rfl
      rw [takeWhole, if_pos hzero, if_pos hzero, hzero, Bool.true_and]
      apply follows_peek
      dsimp only
      rw [hlook]
      split
      · exact passes_refuseNext (c := c.eat.look) _ rfl
      · exact skipAfterWhole_passes (c := c.eat.look) rfl
    · rw [takeWhole, if_neg hzero, if_neg hzero, takeDigits_of_first hhead hdigit]
      apply follows_takeWhile
      simp only [hzero, Bool.false_and, Bool.false_eq_true, if_false]
      exact skipAfterWhole_passes rfl

end PatternGrammar.Config
