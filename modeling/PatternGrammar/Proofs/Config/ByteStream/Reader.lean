import PatternGrammar.Config.ByteStream.Reader
import PatternGrammar.Proofs.Config.ByteStream.Skipping

/-!
# Options in streams

What is read from a stream of bytes is what is read from the bytes themselves, and what is refused there is refused for
the same cause.
-/

namespace PatternGrammar.Config

variable {α : Type} {c : Cursor}

/-! ## Values -/

theorem refuseValue_follows (expected : Expected) (b : UInt8) (hc : c.looked = true) :
    Follows (FromStream.refuseValue expected b) c (refuseValue expected b c : Except Failure (α × Cursor)) := by
  have hword : ∀ (word : List UInt8) (cause : Cause),
      Follows (FromStream.discard >>= fun _ => FromStream.readWord word >>= fun _ => FromStream.refuse cause) c
        (readWord word c.eat >>= refuse cause : Except Failure (α × Cursor)) := by
    intro word cause
    apply follows_discard hc
    exact (readWord_passes word c.eat).bind fun c' _ => follows_refuse cause c'
  rw [FromStream.refuseValue, refuseValue]
  split
  · exact hword _ _
  split
  · exact hword _ _
  split
  · exact hword _ _
  split
  · apply follows_discard hc
    exact (readNumber_follows true c.eat).bind fun n c' _ => follows_refuse _ c'
  split
  · exact (readNumber_follows false c).bind fun n c' _ => follows_refuse _ c'
  split
  · apply follows_discard hc
    exact (readString_follows c.eat).bind fun s c' _ => follows_refuse _ c'
  rw [Cursor.look_of_looked hc]
  split
  · exact follows_refuse _ c
  split
  · exact follows_refuse _ c
  · exact follows_refuseNext _ hc

theorem readBool_follows (c : Cursor) : Follows FromStream.readBool c (readBool c) := by
  rw [FromStream.readBool, readBool]
  apply follows_skipToByte
  intro b
  split
  · apply follows_discard rfl
    exact (readWord_passes trueRest _).bind fun c' _ => follows_pure true c'
  split
  · apply follows_discard rfl
    exact (readWord_passes falseRest _).bind fun c' _ => follows_pure false c'
  · exact refuseValue_follows .boolean b rfl

theorem integer_follows (expected : Expected) (most : Nat) (n : Number) (c : Cursor) :
    Follows
      (match n with
      | .unsigned m => if m ≤ most then pure m else FromStream.refuse (.wrongValue n.found expected)
      | .negative _ => FromStream.refuse (.wrongValue n.found expected)
      | .floating _ => FromStream.refuse (.wrongType n.found expected)) c
      (match n with
      | .unsigned m => if m ≤ most then pure (m, c) else refuse (.wrongValue n.found expected) c
      | .negative _ => refuse (.wrongValue n.found expected) c
      | .floating _ => refuse (.wrongType n.found expected) c) := by
  cases n with
  | unsigned m =>
    dsimp only
    split
    · exact follows_pure m c
    · exact follows_refuse _ c
  | negative m => exact follows_refuse _ c
  | floating text => exact follows_refuse _ c

theorem readInteger_follows (expected : Expected) (most : Nat) (c : Cursor) :
    Follows (FromStream.readInteger expected most) c (readInteger expected most c) := by
  rw [FromStream.readInteger, readInteger]
  apply follows_skipToByte
  intro b
  split
  · split
    · apply follows_discard rfl
      apply (readNumber_follows (b == 0x2D) _).bind
      exact fun n c' _ => integer_follows expected most n c'
    · apply (readNumber_follows (b == 0x2D) _).bind
      exact fun n c' _ => integer_follows expected most n c'
  · exact refuseValue_follows expected b rfl

/-- The value of an option is read from a stream as it is at a cursor. -/
theorem readField_follows (d : Draft) (c : Cursor) (f : Field) :
    Follows (FromStream.readField d f) c (readField d c f) := by
  cases f with
  | caseInsensitive => exact (readBool_follows c).bind fun b c' _ => follows_pure _ c'
  | multiLine => exact (readBool_follows c).bind fun b c' _ => follows_pure _ c'
  | dotMatchesNewLine => exact (readBool_follows c).bind fun b c' _ => follows_pure _ c'
  | sizeLimit => exact (readInteger_follows .size maxInteger c).bind fun n c' _ => follows_pure _ c'
  | nestLimit => exact (readInteger_follows .depth maxDepth c).bind fun n c' _ => follows_pure _ c'

/-! ## Arrays -/

theorem readArrayEnd_passes (c : Cursor) : Passes FromStream.readArrayEnd c (readArrayEnd c) := by
  rw [FromStream.readArrayEnd, readArrayEnd]
  apply passes_skipToByte
  intro b
  split
  · exact passes_discard rfl
  split
  · apply follows_discard rfl
    apply follows_skipBlanks
    dsimp only
    split
    · exact passes_refuseNext _ rfl
    · exact passes_refuseNext _ rfl
  · exact passes_refuseNext _ rfl

/-- The elements of a list are read from a stream as they are at a cursor. -/
theorem readElements_follows (first : Bool) (d : Draft) (c : Cursor) (fields : List Field) :
    Follows (FromStream.readElements first d fields) c (readElements first d c fields) := by
  induction fields generalizing first d c with
  | nil => exact follows_pure d c
  | cons f fields ih =>
    have hvalue : ∀ c', Follows (FromStream.readField d f >>= fun d => FromStream.readElements false d fields) c'
        (readField d c' f >>= fun y => readElements false y.1 y.2 fields) := by
      intro c'
      exact (readField_follows d c' f).bind fun d c'' _ => ih false d c''
    rw [FromStream.readElements, readElements]
    apply follows_skipToByte
    intro b
    split
    · exact follows_pure d _
    split
    · exact hvalue _
    split
    · apply follows_discard rfl
      apply follows_skipToByte
      intro next
      split
      · exact follows_refuseNext _ rfl
      · exact hvalue _
    · exact follows_refuseNext _ rfl

/-! ## Objects -/

theorem refuseDuplicate_follows (name : List Char) (c : Cursor) :
    Follows (FromStream.refuseDuplicate name) c (refuseDuplicate name c : Except Failure (α × Cursor)) := by
  apply follows_skipBlanks
  rw [refuseDuplicate]
  split
  · exact follows_discard rfl (follows_refuse _ _)
  · exact follows_refuse _ _

/-- A member is read from a stream as it is at a cursor: its key, the colon and its value. -/
theorem readMember_follows (d : Draft) (c : Cursor) : Follows (FromStream.readMember d) c (readMember d c) := by
  rw [FromStream.readMember, readMember]
  apply (readString_follows c).bind
  intro key c1 _
  dsimp only
  cases Field.ofName? key with
  | none =>
    apply (readColon_passes c1).bind
    intro c2 _
    exact (skipValue_passes c2).bind fun c3 _ => follows_pure d c3
  | some f =>
    dsimp only
    split
    · exact refuseDuplicate_follows key c1
    · exact (readColon_passes c1).bind fun c2 _ => readField_follows d c2 f

theorem readMembers_follows (fuel : Nat) (first : Bool) (d : Draft) (c : Cursor) :
    Follows (FromStream.readMembers fuel first d) c (readMembers fuel first d c) := by
  induction fuel generalizing first d c with
  | zero => exact follows_peek_refuse _ c
  | succ fuel ih =>
    have hmember : ∀ c', Follows (FromStream.readMember d >>= fun d => FromStream.readMembers fuel false d) c'
        (readMember d c' >>= fun y => readMembers fuel false y.1 y.2) := by
      intro c'
      exact (readMember_follows d c').bind fun d c'' _ => ih false d c''
    rw [FromStream.readMembers, readMembers]
    apply follows_skipToByte
    intro b
    split
    · exact follows_discard rfl (follows_pure d _)
    split
    · split
      · exact follows_discard rfl (hmember _)
      · exact follows_refuseNext _ rfl
    split
    · apply follows_discard rfl
      apply follows_skipToByte
      intro next
      split
      · exact follows_discard rfl (hmember _)
      split
      · exact follows_refuseNext _ rfl
      · exact follows_refuseNext _ rfl
    · exact follows_refuseNext _ rfl

/-! ## Options -/

theorem readOptions_follows (c : Cursor) : Follows FromStream.readOptions c (readOptions c) := by
  rw [FromStream.readOptions, readOptions]
  apply follows_skipToByte
  intro b
  split
  · apply follows_discard rfl
    apply (readElements_follows true {} _ Field.all).bind
    intro d c1 _
    exact (readArrayEnd_passes c1).bind fun c2 _ => follows_pure d c2
  split
  · apply follows_left (g := fun n => FromStream.discard >>= fun _ => FromStream.readMembers (n + 1) true {})
    exact follows_discard rfl (readMembers_follows _ true {} _)
  · exact refuseValue_follows .options b rfl

/-- Options up to the end are read from a stream as they are at a cursor. -/
theorem readAll_follows (c : Cursor) :
    Follows FromStream.readAll c
      (readOptions c >>= fun y =>
        if (skipBlanks y.2).rest.isEmpty then .ok (y.1.toConfig, skipBlanks y.2)
        else refuseNext .trailingCharacters (skipBlanks y.2)) := by
  apply (readOptions_follows c).bind
  intro d c1 _
  apply follows_skipBlanks
  rw [Cursor.head?]
  cases (skipBlanks c1).rest with
  | nil => exact follows_pure d.toConfig _
  | cons b rest => exact follows_refuseNext _ rfl

/-- Reading bytes from a stream gives the options that the bytes hold, or refuses them as the bytes of a file. -/
theorem readStream_ofBytes (bytes : List UInt8) :
    readStream (.ofBytes bytes) =
      match read bytes with
      | .ok config => .ok config
      | .error e => .error ⟨e.cause, e.place .file⟩ := by
  have hall : FromStream.readAll (.ofBytes bytes) = _ := readAll_follows (.ofBytes bytes)
  rw [readStream, hall, read]
  cases readOptions (.ofBytes bytes) with
  | error e => rfl
  | ok y =>
    rw [bind_ok, bind_ok]
    dsimp only
    split
    · rfl
    · rfl

end PatternGrammar.Config
