import PatternGrammar.Config.ByteStream
import PatternGrammar.Proofs.Config.Cursor

/-!
# Streams and cursors

A reader of a stream follows a reader of a cursor (`Follows`, or `Passes` if it gives nothing) if it ends where that one
ends, or refuses for the same cause at the place that is meant for a file. In this way each reader is traced back to its
parts. Here are single bytes, runs of bytes, white space, words and colons.
-/

namespace PatternGrammar.Config

variable {α β : Type}

/-! ## The stream of a cursor -/

theorem ByteStream.fetch_fetch (s : ByteStream) : s.fetch.fetch = s.fetch := by
  obtain ⟨unread, held, place⟩ := s
  cases held <;> cases unread <;> rfl

namespace Cursor

/-- The stream of the bytes in front of a cursor. A byte that has been looked at is held. -/
def stream (c : Cursor) : ByteStream :=
  if c.looked then (⟨c.rest, none, c.place⟩ : ByteStream).fetch else ⟨c.rest, none, c.place⟩

theorem look_look (c : Cursor) : c.look.look = c.look := rfl

/-- Looking at the next byte of a cursor is holding the next byte of its stream. -/
theorem stream_look (c : Cursor) : c.look.stream = c.stream.fetch := by
  obtain ⟨rest, place, looked⟩ := c
  cases looked
  · rfl
  · exact (ByteStream.fetch_fetch _).symm

theorem look_of_looked {c : Cursor} (hc : c.looked = true) : c.look = c := by
  obtain ⟨rest, place, looked⟩ := c
  rw [look, ← hc]

theorem fetch_of_looked {c : Cursor} (hc : c.looked = true) : c.stream.fetch = c.stream := by
  rw [← stream_look, look_of_looked hc]

/-- The byte that a stream holds is the next one of its cursor. -/
theorem held_fetch (c : Cursor) : c.stream.fetch.held = c.head? := by
  obtain ⟨rest, place, looked⟩ := c
  cases looked <;> cases rest <;> rfl

/-- Taking the next byte of a cursor is letting go of the byte that its stream holds. -/
theorem release_fetch (c : Cursor) : c.stream.fetch.release = c.eat.stream := by
  obtain ⟨rest, place, looked⟩ := c
  cases looked <;> cases rest <;> rfl

theorem left_stream (c : Cursor) : c.stream.left = c.rest.length := by
  obtain ⟨rest, place, looked⟩ := c
  cases looked <;> cases rest <;> rfl

/-- The place reported of a file is that of the stream, whether or not the byte at fault has been looked at. -/
theorem place_file (cause : Cause) (c : Cursor) (atNext : Bool) :
    Failure.place .file ⟨cause, c, atNext⟩ = c.stream.place := by
  obtain ⟨rest, place, looked⟩ := c
  cases looked <;> cases rest <;> rfl

theorem rest_of_head?_none {c : Cursor} (hc : c.head? = none) : c.rest = [] :=
  List.head?_eq_none_iff.mp hc

theorem eat_of_head?_none {c : Cursor} (hc : c.head? = none) : c.eat = c := by
  rw [eat, rest_of_head?_none hc]

theorem stream_look_of_head?_none {c : Cursor} (hc : c.head? = none) : c.look.stream = c.stream := by
  obtain ⟨rest, place, looked⟩ := c
  obtain rfl : rest = [] := rest_of_head?_none hc
  cases looked <;> rfl

theorem eat_look {c : Cursor} {b : UInt8} (hc : c.head? = some b) : c.look.eat = c.eat := by
  obtain ⟨rest, hrest⟩ := List.head?_eq_some_iff.mp hc
  simp only [eat, rest_look, hrest]
  rfl

end Cursor

/-! ## Readers that follow each other -/

/-- What a reader of a cursor gives, as a reader of a stream gives it. -/
def inStream : Except Failure (α × Cursor) → Except Refusal (α × ByteStream)
  | .ok (a, c) => .ok (a, c.stream)
  | .error e => .error ⟨e.cause, e.place .file⟩

/-- On the stream of a cursor, the reader gives what is given at the cursor. -/
def Follows (x : FromStream α) (c : Cursor) (r : Except Failure (α × Cursor)) : Prop :=
  x c.stream = inStream r

/-- On the stream of a cursor, the reader moves on as far as at the cursor. -/
def Passes (x : FromStream Unit) (c : Cursor) (r : Except Failure Cursor) : Prop :=
  Follows x c (r.map ((), ·))

section Combined

variable {x : FromStream α} {g : α → FromStream β} {c c' : Cursor}

theorem follows_pure (a : α) (c : Cursor) : Follows (pure a) c (.ok (a, c)) := rfl

theorem passes_pure (c : Cursor) : Passes (pure ()) c (.ok c) := rfl

theorem follows_refuse (cause : Cause) (c : Cursor) :
    Follows (FromStream.refuse cause) c (refuse cause c : Except Failure (α × Cursor)) := by
  show Except.error _ = Except.error _
  rw [Cursor.place_file]

/-- A stream stands behind a byte once it has been looked at, whether it is then taken or not. -/
theorem passes_refuse_look (cause : Cause) (c : Cursor) :
    Passes (FromStream.refuse cause) c.eat (refuse cause c.look) := by
  show Except.error _ = Except.error _
  rw [Cursor.place_file, Cursor.stream_look, ← Cursor.release_fetch]
  rfl

theorem passes_refuse (cause : Cause) (c : Cursor) : Passes (FromStream.refuse cause) c (refuse cause c) :=
  follows_refuse cause c

/-- A byte that has been looked at has been read from the stream, so a fault at it is reported where the stream
stands. -/
theorem refuseNext_of_looked (cause : Cause) (hc : c.looked = true) :
    inStream (refuseNext cause c : Except Failure (α × Cursor)) = inStream (refuse cause c) := by
  show Except.error _ = Except.error _
  rw [Cursor.place_file, Cursor.place_file, Cursor.look_of_looked hc]

/-- Where the next byte has been looked at, a stream always stands behind it. -/
theorem follows_refuseNext (cause : Cause) (hc : c.looked = true) :
    Follows (FromStream.refuse cause) c (refuseNext cause c : Except Failure (α × Cursor)) :=
  (follows_refuse cause c).trans (refuseNext_of_looked cause hc).symm

theorem passes_refuseNext (cause : Cause) (hc : c.looked = true) :
    Passes (FromStream.refuse cause) c (refuseNext cause c) :=
  follows_refuseNext cause hc

theorem bind_of_ok {s s' : ByteStream} {a : α} (hx : x s = .ok (a, s')) : (x >>= g) s = g a s' := by
  show (x s >>= fun y => g y.1 y.2) = _
  rw [hx, bind_ok]

/-- A step that succeeds moves to another cursor, from which the rest is followed. -/
theorem Follows.after {r : Except Failure (β × Cursor)} {a : α} (hx : Follows x c (.ok (a, c')))
    (hg : Follows (g a) c' r) : Follows (x >>= g) c r :=
  (bind_of_ok hx).trans hg

/-- A step that fails ends the reader with its error. -/
theorem Follows.stop {e : Failure} (hx : Follows x c (.error e)) : Follows (x >>= g) c (.error e) := by
  show (x c.stream >>= fun y => g y.1 y.2) = _
  rw [hx]
  rfl

/-- Readers follow one another step by step. -/
theorem Follows.bind {r : Except Failure (α × Cursor)} {k : α × Cursor → Except Failure (β × Cursor)}
    (hx : Follows x c r) (hg : ∀ a c', r = .ok (a, c') → Follows (g a) c' (k (a, c'))) :
    Follows (x >>= g) c (r >>= k) := by
  cases r with
  | error e => exact Follows.stop hx
  | ok y => exact Follows.after hx (hg y.1 y.2 rfl)

/-- A first reader that only moves on. -/
theorem Passes.bind {x : FromStream Unit} {g : Unit → FromStream β} {r : Except Failure Cursor}
    {k : Cursor → Except Failure (β × Cursor)} (hx : Passes x c r)
    (hg : ∀ c', r = .ok c' → Follows (g ()) c' (k c')) : Follows (x >>= g) c (r >>= k) := by
  cases r with
  | error e => exact Follows.stop hx
  | ok c' => exact Follows.after hx (hg c' rfl)

/-- Two readers that only move on. -/
theorem Passes.andThen {x : FromStream Unit} {g : Unit → FromStream Unit} {r : Except Failure Cursor}
    {k : Cursor → Except Failure Cursor} :
    Passes x c r → (∀ c', r = .ok c' → Passes (g ()) c' (k c')) →
      Passes (x >>= g) c
        (match r with
        | .error e => .error e
        | .ok c' => k c') := by
  intro hx hg
  cases r with
  | error e => exact Follows.stop hx
  | ok c' => exact Follows.after hx (hg c' rfl)

/-! ## Single bytes -/

variable {r : Except Failure (β × Cursor)}

/-- To look at a byte leaves it held. -/
theorem peek_stream (c : Cursor) : FromStream.peek c.stream = .ok (c.head?, c.look.stream) := by
  rw [FromStream.peek, Cursor.held_fetch, Cursor.stream_look]

/-- To take a byte lets it go. -/
theorem take_stream (c : Cursor) : FromStream.take c.stream = .ok (c.head?, c.eat.stream) := by
  rw [FromStream.take, Cursor.held_fetch, Cursor.release_fetch]

theorem discard_stream (hc : c.looked = true) : FromStream.discard c.stream = .ok ((), c.eat.stream) := by
  rw [FromStream.discard, ← Cursor.release_fetch, Cursor.fetch_of_looked hc]

/-- A reader that looks at a byte goes on with what the cursor has there, looked at. -/
theorem follows_peek {g : Option UInt8 → FromStream β} (hg : Follows (g c.head?) c.look r) :
    Follows (FromStream.peek >>= g) c r :=
  (bind_of_ok (peek_stream c)).trans hg

theorem follows_peek_refuse (cause : Cause) (c : Cursor) :
    Follows (FromStream.peek >>= fun _ => FromStream.refuse cause) c
      (refuseNext cause c : Except Failure (β × Cursor)) :=
  follows_peek (follows_refuseNext (c := c.look) cause rfl)

/-- A reader that takes a byte goes on behind it. -/
theorem follows_take {g : Option UInt8 → FromStream β} (hg : Follows (g c.head?) c.eat r) :
    Follows (FromStream.take >>= g) c r :=
  (bind_of_ok (take_stream c)).trans hg

/-- A byte that is held is let go of without being read again. -/
theorem follows_discard {g : Unit → FromStream β} (hc : c.looked = true) (hg : Follows (g ()) c.eat r) :
    Follows (FromStream.discard >>= g) c r :=
  (bind_of_ok (discard_stream hc)).trans hg

theorem passes_discard (hc : c.looked = true) : Passes FromStream.discard c (.ok c.eat) :=
  discard_stream hc

/-- A bound on the bytes that are left is the same for the stream and the cursor. -/
theorem follows_left {g : Nat → FromStream β} (hg : Follows (g c.rest.length) c r) :
    Follows (get >>= fun s => g s.left) c r := by
  have hget : (get >>= fun s => g s.left : FromStream β) c.stream = g c.stream.left c.stream := rfl
  rw [Cursor.left_stream] at hget
  exact hget.trans hg

/-! ## Runs of bytes -/

/-- With fuel for all bytes that are left, the bytes that pass a test are taken up to the first that does not, which is
held. -/
theorem takeWhileFrom_stream (p : UInt8 → Bool) {fuel : Nat} (count : Nat) {c : Cursor} (hfuel : c.rest.length < fuel) :
    FromStream.takeWhileFrom p fuel count c.stream =
      .ok (count + (c.rest.takeWhile p).length, (c.eatMany (c.rest.takeWhile p).length).look.stream) := by
  induction fuel generalizing count c with
  | zero => omega
  | succ fuel ih =>
    rw [FromStream.takeWhileFrom, bind_of_ok (peek_stream c)]
    cases hhead : c.head? with
    | none =>
      rw [Cursor.rest_of_head?_none hhead]
      rfl
    | some b =>
      have hrest := Cursor.rest_eq_of_head? hhead
      by_cases hb : p b = true
      · have hshorter : c.eat.rest.length < fuel := by
          rw [hrest, List.length_cons] at hfuel
          omega
        rw [Option.any_some, if_pos hb, bind_of_ok (discard_stream rfl), Cursor.eat_look hhead, ih _ hshorter, hrest,
          List.takeWhile_cons_of_pos hb, List.length_cons, Cursor.eatMany, Nat.add_assoc, Nat.add_comm 1]
      · rw [Option.any_some, if_neg hb, hrest, List.takeWhile_cons_of_neg hb]
        rfl

theorem follows_takeWhile {p : UInt8 → Bool} {g : Nat → FromStream β}
    (hg : Follows (g (c.rest.takeWhile p).length) (c.eatMany (c.rest.takeWhile p).length).look r) :
    Follows (FromStream.takeWhile p >>= g) c r := by
  have htake := takeWhileFrom_stream p 0 (Nat.lt_succ_self c.rest.length)
  rw [Nat.zero_add] at htake
  exact Follows.after (follows_left (g := fun n => FromStream.takeWhileFrom p (n + 1) 0) htake) hg

/-! ## White space, words and colons -/

/-- White space is taken, and the byte behind it is held. -/
theorem skipBlanks_stream (c : Cursor) :
    FromStream.skipBlanks c.stream = .ok ((skipBlanks c).head?, (skipBlanks c).stream) :=
  follows_takeWhile (r := .ok ((skipBlanks c).head?, skipBlanks c)) (peek_stream _)

theorem follows_skipBlanks {g : Option UInt8 → FromStream β}
    (hg : Follows (g (skipBlanks c).head?) (skipBlanks c) r) : Follows (FromStream.skipBlanks >>= g) c r :=
  (bind_of_ok (skipBlanks_stream c)).trans hg

variable {inside : Unfinished}

/-- Behind white space there is a byte, or the input has ended in the middle of something. -/
theorem skipToByte_follows (inside : Unfinished) (c : Cursor) :
    Follows (FromStream.skipToByte inside) c
      (match (skipBlanks c).head? with
      | none => refuseNext (.endOfInput inside) (skipBlanks c)
      | some b => .ok (b, skipBlanks c)) := by
  apply follows_skipBlanks
  cases (skipBlanks c).head? with
  | none => exact follows_refuseNext _ rfl
  | some b => exact follows_pure b _

theorem follows_skipToByte {g : UInt8 → FromStream β} {k : UInt8 → Except Failure (β × Cursor)}
    (hg : ∀ b, Follows (g b) (skipBlanks c) (k b)) :
    Follows (FromStream.skipToByte inside >>= g) c
      (match (skipBlanks c).head? with
      | none => refuseNext (.endOfInput inside) (skipBlanks c)
      | some b => k b) := by
  have hskip := skipToByte_follows inside c
  cases hhead : (skipBlanks c).head? with
  | none =>
    rw [hhead] at hskip
    exact hskip.stop
  | some b =>
    rw [hhead] at hskip
    exact hskip.after (hg b)

theorem passes_skipToByte {g : UInt8 → FromStream Unit} {k : UInt8 → Except Failure Cursor}
    (hg : ∀ b, Passes (g b) (skipBlanks c) (k b)) :
    Passes (FromStream.skipToByte inside >>= g) c
      (match (skipBlanks c).head? with
      | none => refuseNext (.endOfInput inside) (skipBlanks c)
      | some b => k b) := by
  have hbyte := @follows_skipToByte _ _ inside _ _ hg
  generalize (skipBlanks c).head? = next at hbyte ⊢
  cases next with
  | none => exact hbyte
  | some b => exact hbyte

end Combined

theorem readWord_passes (word : List UInt8) (c : Cursor) : Passes (FromStream.readWord word) c (readWord word c) := by
  induction word generalizing c with
  | nil => exact passes_pure c
  | cons b word ih =>
    rw [FromStream.readWord, readWord]
    apply follows_take
    cases hhead : c.head? with
    | none =>
      have heat : c.eat = c := Cursor.eat_of_head?_none hhead
      rw [heat]
      exact passes_refuse _ c
    | some d =>
      dsimp only
      split
      · exact ih c.eat
      · exact passes_refuse _ c.eat

theorem readColon_passes (c : Cursor) : Passes FromStream.readColon c (readColon c) := by
  rw [FromStream.readColon, readColon]
  apply passes_skipToByte
  intro b
  split
  · exact passes_discard rfl
  · exact passes_refuseNext _ rfl

end PatternGrammar.Config
