import PatternGrammar.Config.ByteStream.Skipping
import PatternGrammar.Proofs.Config.ByteStream.Number
import PatternGrammar.Proofs.Config.ByteStream.Quotation

/-!
# Skipped values in streams

A stream and a cursor open and close the same brackets, so both come to the end of a value together.
-/

namespace PatternGrammar.Config

variable {c : Cursor}

theorem skipKey_passes (c : Cursor) : Passes FromStream.skipKey c (skipKey c) := by
  rw [FromStream.skipKey, skipKey]
  apply passes_skipToByte
  intro b
  split
  · apply follows_discard rfl
    apply Passes.andThen (skipString_passes _)
    exact fun c' _ => readColon_passes c'
  · exact passes_refuseNext _ rfl

theorem skipToValue_passes (bracket : Bracket) (c : Cursor) :
    Passes (FromStream.skipToValue bracket) c (skipToValue bracket c) := by
  cases bracket with
  | list => exact passes_pure c
  | object => exact skipKey_passes c

theorem skipScalar_passes (b : UInt8) (hc : c.looked = true) : Passes (FromStream.skipScalar b) c (skipScalar b c) := by
  rw [FromStream.skipScalar, skipScalar]
  split
  · exact follows_discard hc (readWord_passes nullRest c.eat)
  split
  · exact follows_discard hc (readWord_passes trueRest c.eat)
  split
  · exact follows_discard hc (readWord_passes falseRest c.eat)
  split
  · exact follows_discard hc (skipNumber_passes c.eat)
  split
  · exact skipNumber_passes c
  split
  · exact follows_discard hc (skipString_passes c.eat)
  · exact passes_refuseNext .valueExpected hc

/-- The walk through brackets goes the same way in a stream. -/
theorem skipFrom_passes (fuel : Nat) (done : Bool) (outer : List Bracket) (c : Cursor) :
    Passes (FromStream.skipFrom fuel done outer) c (skipFrom fuel done outer c) := by
  induction fuel generalizing done outer c with
  | zero => exact follows_peek_refuse _ c
  | succ fuel ih =>
    match done, outer with
    | false, outer =>
      rw [FromStream.skipFrom, skipFrom]
      apply passes_skipToByte
      intro b
      cases opening? b with
      | none =>
        apply Passes.andThen (skipScalar_passes b rfl)
        exact fun c' _ => ih true outer c'
      | some bracket =>
        apply follows_discard rfl
        apply passes_skipToByte
        intro d
        split
        · exact follows_discard rfl (ih true outer _)
        · apply Passes.andThen (skipToValue_passes bracket _)
          exact fun c' _ => ih false (bracket :: outer) c'
    | true, [] => exact passes_pure c
    | true, bracket :: outer =>
      rw [FromStream.skipFrom, skipFrom]
      apply passes_skipToByte
      intro b
      split
      · exact follows_discard rfl (ih true outer _)
      split
      · apply follows_discard rfl
        apply Passes.andThen (skipToValue_passes bracket _)
        exact fun c' _ => ih false (bracket :: outer) c'
      · exact passes_refuseNext _ rfl

/-- A value is skipped in a stream as it is at a cursor. -/
theorem skipValue_passes (c : Cursor) : Passes FromStream.skipValue c (skipValue c) :=
  follows_left (g := fun n => FromStream.skipFrom (n + 1) false []) (skipFrom_passes _ false [] c)

end PatternGrammar.Config
