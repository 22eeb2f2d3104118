import PatternGrammar.Proofs.Regex.Front

/-!
# Search

A search finds a match where there is one, at the first place where there is one, and what it finds is a path of the
program (`finds_of_search`, `not_canAccept_of_search`). Threads that meet are cut to one, and a thread that accepts ends
the ones after it; neither loses the last path that accepts.
-/

namespace PatternGrammar.Regex.Program

variable {p : Program} {text : Text} {i : Nat} {c : Char}

/-- The program gets from an instruction at a spot to accepting at another. -/
def Finds (p : Program) (text : Text) (a : Nat × Spot) (t : Spot) : Prop :=
  ∃ q, p.Reaches text a (q, t) ∧ p.code[q]? = some .accept

/-- The program can go on from an instruction at a place until it accepts. -/
def CanAccept (p : Program) (text : Text) (q i : Nat) : Prop :=
  ∃ marks t, p.Finds text (q, ⟨i, marks⟩) t

/-- A thread accepts, or reads the next character and can then go on until it accepts. -/
def Ready (p : Program) (text : Text) (i : Nat) (t : Thread) : Prop :=
  p.code[t.place]? = some .accept ∨
    ∃ set c, p.code[t.place]? = some (.chars set) ∧ text[i]? = some c ∧ set.mem c = true ∧
      p.CanAccept text (t.place + 1) (i + 1)

/-- A path that accepts leaves the place where it is by a thread that waits there. -/
theorem exists_ready {f : Front} {q : Nat} (hf : f.Closed p text i) (hq : f.Has q)
    (h : p.CanAccept text q i) : ∃ t ∈ f.threads, p.Ready text i t := by
  obtain ⟨marks, t, r, ⟨n, hpath⟩, haccept⟩ := h
  -- steps that read nothing stay in the closed front, so the path is followed up to one that reads
  induction n generalizing q marks with
  | zero =>
    obtain rfl : q = r := congrArg Prod.fst hpath
    have hwait := hf q hq
    simp only [Front.Settled, haccept] at hwait
    obtain ⟨u, hu, rfl⟩ := hwait
    exact ⟨u, hu, .inl haccept⟩
  | succ n ih =>
    obtain ⟨⟨b, u⟩, hstep, hrest⟩ := hpath
    have hsettled := hf q hq
    cases hcode : p.code[q]? with
    | none => simp only [Step, hcode] at hstep
    | some instruction =>
      cases instruction <;> simp only [Step, Front.Settled, hcode] at hstep hsettled
      case chars set =>
        obtain ⟨rfl, -, hmoved, c, hc, hmem⟩ := hstep
        obtain ⟨v, hv, rfl⟩ := hsettled
        rw [show u = ⟨i + 1, u.marks⟩ by rw [← hmoved]] at hrest
        exact ⟨v, hv, .inr ⟨set, c, hcode, hc, hmem, u.marks, t, r, ⟨n, hrest⟩, haccept⟩⟩
      case jump target =>
        rw [hstep] at hrest
        exact ih hsettled _ hrest
      case branch first second =>
        rcases hstep with hstep | hstep <;> rw [hstep] at hrest
        · exact ih hsettled.1 _ hrest
        · exact ih hsettled.2 _ hrest
      case mark slot =>
        rw [hstep] at hrest
        exact ih hsettled _ hrest
      case assertion a =>
        rw [hstep.1] at hrest
        exact ih (hsettled hstep.2) _ hrest

/-! ## Entering and advancing -/

/-- Entering an instruction reaches it and loses nothing. -/
theorem enter_grows (text : Text) (i place : Nat) (marks : Marks) {f : Front} (hf : f.unreached ≤ p.code.size) :
    f.Grows p text i (p.enter (cursorAt text i) place marks f) ∧
      (p.enter (cursorAt text i) place marks f).Has place :=
  follow_grows hf

/-- Threads are moved without loss, until one accepts. -/
theorem advance_grows {ts : List Thread} {f : Front} (hf : f.unreached ≤ p.code.size) :
    f.Grows p text i (p.advance c (cursorAt text i) ts f).1 := by
  induction ts generalizing f with
  | nil => exact .refl f
  | cons t ts ih =>
    rw [advance]
    split
    · next set hcode =>
      split
      · obtain ⟨hgrows, -⟩ := enter_grows text i (t.place + 1) t.marks hf
        exact hgrows.trans (ih (Nat.le_trans hgrows.unreached hf))
      · exact ih hf
    · exact .refl f
    · exact ih hf

/-- A thread that accepts is found. -/
theorem advance_accept {cursor : Cursor} {ts : List Thread} {f : Front} {t : Thread} (ht : t ∈ ts)
    (hcode : p.code[t.place]? = some .accept) : (p.advance c cursor ts f).2 ≠ none := by
  induction ts generalizing f with
  | nil => exact absurd ht List.not_mem_nil
  | cons u us ih =>
    rw [advance]
    rcases List.mem_cons.mp ht with rfl | hus
    · rw [hcode]
      exact Option.some_ne_none _
    · split
      · exact ih hus
      · exact Option.some_ne_none _
      · exact ih hus

/-- A thread that reads the character is moved behind it, unless one before it accepts. -/
theorem advance_has {ts : List Thread} {f : Front} {t : Thread} {set : CharSet}
    (hf : f.unreached ≤ p.code.size) (ht : t ∈ ts) (hcode : p.code[t.place]? = some (.chars set))
    (hmem : set.mem c = true) (hnone : (p.advance c (cursorAt text i) ts f).2 = none) :
    (p.advance c (cursorAt text i) ts f).1.Has (t.place + 1) := by
  induction ts generalizing f with
  | nil => exact absurd ht List.not_mem_nil
  | cons u us ih =>
    rw [advance] at hnone ⊢
    rcases List.mem_cons.mp ht with rfl | hus
    -- this thread moves now, and those after it take nothing away
    · rw [hcode]
      simp only [hmem, if_true]
      obtain ⟨hgrows, hhas⟩ := enter_grows text i (t.place + 1) t.marks hf
      exact (advance_grows (Nat.le_trans hgrows.unreached hf)).keeps _ hhas
    · split at hnone
      · refine ih ?_ hus hnone
        split
        · exact Nat.le_trans (enter_grows text i _ _ hf).1.unreached hf
        · exact hf
      · contradiction
      · exact ih hf hus hnone

/-- What is found was accepted by a thread, with its marks. -/
theorem accept_of_advance {cursor : Cursor} {ts : List Thread} {f : Front} {marks : Marks}
    (h : (p.advance c cursor ts f).2 = some marks) : ∃ t ∈ ts, p.code[t.place]? = some .accept ∧ t.marks = marks := by
  induction ts generalizing f with
  | nil => contradiction
  | cons u us ih =>
    rw [advance] at h
    split at h
    · obtain ⟨t, ht, hfound⟩ := ih h
      exact ⟨t, List.mem_cons_of_mem u ht, hfound⟩
    · next hcode => exact ⟨u, List.mem_cons_self, hcode, Option.some.inj h⟩
    · obtain ⟨t, ht, hfound⟩ := ih h
      exact ⟨t, List.mem_cons_of_mem u ht, hfound⟩

/-- Every thread behind a character got there from one before it. -/
theorem reaches_of_mem_advance {ts : List Thread} {f : Front} {t : Thread} (hc : text[i]? = some c)
    (ht : t ∈ (p.advance c (cursorAt text (i + 1)) ts f).1.threads) :
    t ∈ f.threads ∨
      ∃ u ∈ ts, p.Reaches text (u.place, ⟨i, u.marks⟩) (t.place, ⟨i + 1, t.marks⟩) := by
  induction ts generalizing f with
  | nil => exact .inl ht
  | cons u us ih =>
    have hlater (h : ∃ v ∈ us, p.Reaches text (v.place, ⟨i, v.marks⟩) (t.place, ⟨i + 1, t.marks⟩)) :
        ∃ v ∈ u :: us, p.Reaches text (v.place, ⟨i, v.marks⟩) (t.place, ⟨i + 1, t.marks⟩) := by
      obtain ⟨v, hv, hreach⟩ := h
      exact ⟨v, List.mem_cons_of_mem u hv, hreach⟩
    rw [advance] at ht
    split at ht
    · next set hcode =>
      by_cases hmem : set.mem c = true
      · rw [if_pos hmem] at ht
        rcases ih ht with hentered | hus
        · rcases reaches_of_mem_follow hentered with hf | hreach
          · exact .inl hf
          · have hstep : p.Step text (u.place, ⟨i, u.marks⟩) (u.place + 1, ⟨i + 1, u.marks⟩) := by
              simp only [Step, hcode, ReadsOne, true_and]
              exact ⟨c, hc, hmem⟩
            exact .inr ⟨u, List.mem_cons_self, (Reaches.step hstep).trans hreach⟩
        · exact .inr (hlater hus)
      · rw [if_neg hmem] at ht
        exact (ih ht).imp_right hlater
    · exact .inl ht
    · exact (ih ht).imp_right hlater

/-! ## Runs -/

/-- The character at the head of the rest of a text stands between two places. -/
theorem cursorAt_succ {cs : List Char} (hrest : text.drop i = c :: cs) :
    text[i]? = some c ∧ text.drop (i + 1) = cs ∧
      cursorAt text (i + 1) = ⟨i + 1, some c, cs.head?⟩ := by
  have hc : text[i]? = some c := by
    rw [← List.head?_drop, hrest, List.head?_cons]
  have hcs : text.drop (i + 1) = cs := by
    rw [← List.tail_drop, hrest, List.tail_cons]
  refine ⟨hc, hcs, ?_⟩
  rw [cursorAt, Text.before, if_neg (Nat.succ_ne_zero i), Nat.add_sub_cancel, hc, ← List.head?_drop, hcs]

theorem finds_of_accepted {threads : List Thread} {marks : Marks} (h : p.accepted? threads = some marks) :
    ∃ t ∈ threads, p.Finds text (t.place, ⟨i, t.marks⟩) ⟨i, marks⟩ := by
  obtain ⟨t, hfind, rfl⟩ := Option.map_eq_some_iff.mp h
  have haccept := List.find?_some hfind
  exact ⟨t, List.mem_of_find?_eq_some hfind, t.place, .refl _, eq_of_beq haccept⟩

/-- What a run finds is the best match so far, or a path from one of its threads. -/
theorem finds_of_run {cs : List Char} {threads : List Thread} {best : Option Marks} {marks : Marks}
    (hrest : text.drop i = cs) (h : p.run i threads best cs = some marks) :
    best = some marks ∨
      ∃ t ∈ threads, ∃ j, p.Finds text (t.place, ⟨i, t.marks⟩) ⟨j, marks⟩ := by
  induction cs generalizing i threads best with
  | nil =>
    rcases Option.or_eq_some_iff.mp h with h | ⟨-, h⟩
    · obtain ⟨t, ht, hfinds⟩ := finds_of_accepted h
      exact .inr ⟨t, ht, i, hfinds⟩
    · exact .inl h
  | cons c cs ih =>
    obtain ⟨hc, hcs, hcursor⟩ := cursorAt_succ hrest
    rw [run, ← hcursor] at h
    dsimp only at h
    -- a thread that accepts does so before the character
    have hfound (h : (p.advance c (cursorAt text (i + 1)) threads (.start p)).2.or best = some marks) :
        best = some marks ∨
          ∃ t ∈ threads, ∃ j, p.Finds text (t.place, ⟨i, t.marks⟩) ⟨j, marks⟩ := by
      rcases Option.or_eq_some_iff.mp h with h | ⟨-, h⟩
      · obtain ⟨t, ht, haccept, rfl⟩ := accept_of_advance h
        exact .inr ⟨t, ht, i, t.place, .refl _, haccept⟩
      · exact .inl h
    split at h
    · exact hfound h
    · rcases ih hcs h with h | ⟨t, ht, j, q, hreach, haccept⟩
      · exact hfound h
      · rcases reaches_of_mem_advance hc (List.mem_reverse.mp ht) with hnil | ⟨u, hu, hreach'⟩
        · exact absurd hnil List.not_mem_nil
        · exact .inr ⟨u, hu, j, q, hreach'.trans hreach, haccept⟩

/-- A match that was found is not lost. -/
theorem run_ne_none {cs : List Char} {threads : List Thread} {best : Option Marks}
    (hbest : best ≠ none) : p.run i threads best cs ≠ none := by
  induction cs generalizing i threads best with
  | nil => exact fun h => hbest (Option.or_eq_none_iff.mp h).2
  | cons c cs ih =>
    rw [run]
    dsimp only
    split
    · exact fun h => hbest (Option.or_eq_none_iff.mp h).2
    · exact ih fun h => hbest (Option.or_eq_none_iff.mp h).2

/-- A run finds a match when one of its threads can go on to accept. -/
theorem run_complete {cs : List Char} {threads : List Thread} {best : Option Marks} {t : Thread}
    (hrest : text.drop i = cs) (ht : t ∈ threads) (hready : p.Ready text i t) : p.run i threads best cs ≠ none := by
  induction cs generalizing i threads best t with
  | nil =>
    have hend : text[i]? = none := by
      rw [← List.head?_drop, hrest, List.head?_nil]
    rcases hready with haccept | ⟨set, c, -, hc, -⟩
    · intro h
      have hnone := (Option.or_eq_none_iff.mp h).1
      rw [accepted?, Option.map_eq_none_iff, List.find?_eq_none] at hnone
      exact hnone t ht (by rw [haccept, beq_self_eq_true])
    · rw [hend] at hc
      contradiction
  | cons c cs ih =>
    obtain ⟨hc, hcs, hcursor⟩ := cursorAt_succ hrest
    rw [run, ← hcursor]
    dsimp only
    have hstart : (Front.start p).unreached ≤ p.code.size := Nat.le_of_eq (Front.unreached_start p)
    -- either some thread accepts, or none is cut off and the one that is ready moves on
    cases hfound : (p.advance c (cursorAt text (i + 1)) threads (.start p)).2 with
    | some marks =>
      rw [Option.some_or]
      split
      · exact Option.some_ne_none _
      · exact run_ne_none (Option.some_ne_none _)
    | none =>
      rcases hready with haccept | ⟨set, d, hset, hd, hmem, hafter⟩
      · exact absurd hfound (advance_accept ht haccept)
      · obtain rfl : c = d := Option.some.inj (hc.symm.trans hd)
        have hclosed : (p.advance c (cursorAt text (i + 1)) threads (.start p)).1.Closed p text (i + 1) :=
          (advance_grows hstart).closed (Front.closed_start p text (i + 1))
        obtain ⟨u, hu, hready⟩ := exists_ready hclosed (advance_has hstart ht hset hmem hfound) hafter
        split
        · next hempty =>
          rw [List.isEmpty_iff.mp hempty] at hu
          exact absurd hu List.not_mem_nil
        · exact ih hcs (List.mem_reverse.mpr hu) hready

/-! ## Searches -/

/-- A match that is found at a place is one of the program. -/
theorem finds_of_matchAt {marks : Marks} (h : p.matchAt? i (text.before i) (text.drop i) = some marks) :
    ∃ j, p.Finds text (0, ⟨i, []⟩) ⟨j, marks⟩ := by
  rw [matchAt?, List.head?_drop] at h
  rcases finds_of_run rfl h with h | ⟨t, ht, j, q, hreach, haccept⟩
  · contradiction
  · rcases reaches_of_mem_follow (List.mem_reverse.mp ht) with hnil | hreach'
    · exact absurd hnil List.not_mem_nil
    · exact ⟨j, q, hreach'.trans hreach, haccept⟩

/-- Where the program can accept, a match is found. -/
theorem matchAt_complete (h : p.CanAccept text 0 i) : p.matchAt? i (text.before i) (text.drop i) ≠ none := by
  rw [matchAt?, List.head?_drop]
  have hstart : (Front.start p).unreached ≤ p.code.size := Nat.le_of_eq (Front.unreached_start p)
  obtain ⟨hgrows, hhas⟩ := enter_grows text i 0 [] hstart
  obtain ⟨t, ht, hready⟩ := exists_ready (hgrows.closed (Front.closed_start p text i)) hhas h
  exact run_complete rfl (List.mem_reverse.mpr ht) hready

/-- From a place on, a search tries every place until one matches. -/
theorem searchFrom_cases {cs : List Char} (hi : i ≤ text.length) (hrest : text.drop i = cs) :
    match p.searchFrom? i (text.before i) cs with
    | some marks => ∃ k j, i ≤ k ∧ k ≤ text.length ∧ p.Finds text (0, ⟨k, []⟩) ⟨j, marks⟩ ∧
        ∀ l, i ≤ l → l < k → ¬ p.CanAccept text 0 l
    | none => ∀ l, i ≤ l → l ≤ text.length → ¬ p.CanAccept text 0 l := by
  induction cs generalizing i with
  | nil =>
    -- the end of the text is a place too
    have hlength : text.length ≤ i := List.drop_eq_nil_iff.mp hrest
    rw [searchFrom?, ← hrest]
    split
    · next marks h =>
      obtain ⟨j, hfinds⟩ := finds_of_matchAt h
      exact ⟨i, j, Nat.le_refl i, hi, hfinds, fun l hil hli => by omega⟩
    · next h =>
      intro l hil hl haccept
      obtain rfl : i = l := by omega
      exact matchAt_complete haccept h
  | cons c cs ih =>
    obtain ⟨hc, hcs, -⟩ := cursorAt_succ hrest
    have hlt : i < text.length := (List.getElem?_eq_some_iff.mp hc).1
    have hbefore : text.before (i + 1) = some c := by
      rw [Text.before, if_neg (Nat.succ_ne_zero i), Nat.add_sub_cancel, hc]
    rw [searchFrom?, ← hrest]
    cases hmatch : p.matchAt? i (text.before i) (text.drop i) with
    | some marks =>
      obtain ⟨j, hfinds⟩ := finds_of_matchAt hmatch
      exact ⟨i, j, Nat.le_refl i, hi, hfinds, fun l hil hli => by omega⟩
    | none =>
      have hnot : ¬ p.CanAccept text 0 i := fun haccept => matchAt_complete haccept hmatch
      -- what is found later is no earlier than behind this character
      have hlater := ih hlt hcs
      rw [hbefore] at hlater
      dsimp only
      split at hlater
      · next marks h =>
        rw [h]
        obtain ⟨k, j, hik, hk, hfinds, hfirst⟩ := hlater
        refine ⟨k, j, by omega, hk, hfinds, fun l hil hlk => ?_⟩
        rcases Nat.eq_or_lt_of_le hil with rfl | hlt
        · exact hnot
        · exact hfirst l hlt hlk
      · next h =>
        rw [h]
        intro l hil hl
        rcases Nat.eq_or_lt_of_le hil with rfl | hlt
        · exact hnot
        · exact hlater l hlt hl

theorem finds_of_search {marks : Marks} (h : p.search? text = some marks) :
    ∃ i j, i ≤ text.length ∧ p.Finds text (0, ⟨i, []⟩) ⟨j, marks⟩ ∧
      ∀ l < i, ¬ p.CanAccept text 0 l := by
  have hcases := searchFrom_cases (p := p) (Nat.zero_le text.length) List.drop_zero
  rw [show p.searchFrom? 0 (text.before 0) text = some marks from h] at hcases
  obtain ⟨i, j, -, hi, hfinds, hfirst⟩ := hcases
  exact ⟨i, j, hi, hfinds, fun l => hfirst l (Nat.zero_le l)⟩

/-- A search that finds nothing has left out no place from which the program accepts. -/
theorem not_canAccept_of_search (h : p.search? text = none) (hi : i ≤ text.length) : ¬ p.CanAccept text 0 i := by
  have hcases := searchFrom_cases (p := p) (Nat.zero_le text.length) List.drop_zero
  rw [show p.searchFrom? 0 (text.before 0) text = none from h] at hcases
  exact hcases i (Nat.zero_le i) hi

end PatternGrammar.Regex.Program
