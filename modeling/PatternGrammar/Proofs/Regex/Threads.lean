import PatternGrammar.Proofs.Regex.Backtracking
import PatternGrammar.Proofs.Regex.Compiled

/-!
# Threads and backtracking

A search finds what backtracking finds (`Program.search_eq_some`). Threads stand in the order in which backtracking
would come to them, so what some threads still promise is what the first of them yields that yields something. A thread
that meets another one is dropped; what it would yield the other one yields too, and is preferred.
-/

namespace PatternGrammar.Regex

/-- What some threads, the most preferred first, yield at a place of a text: what backtracking yields from the first of
them from where it yields something. A thread that accepts hides those after it. -/
inductive Thread.Promise (p : Program) (text : Text) (i : Nat) : List Thread → Option Spot → Prop where
  | nil : Promise p text i [] none
  | reads {t : Thread} {ts : List Thread} {set : CharSet} {x o : Option Spot}
      (hcode : p.code[t.place]? = some (.chars set)) (hx : p.Yields text t.place i x)
      (hts : Promise p text i ts o) : Promise p text i (t :: ts) ((x.map (·.behind t.marks)).or o)
  | accepts {t : Thread} (ts : List Thread) (hcode : p.code[t.place]? = some .accept) :
      Promise p text i (t :: ts) (some ⟨i, t.marks⟩)

namespace Thread.Promise

variable {p : Program} {text : Text} {i : Nat} {ts us : List Thread} {o o' : Option Spot}

theorem append (hts : Promise p text i ts o) (hus : Promise p text i us o') :
    Promise p text i (ts ++ us) (o.or o') := by
  induction hts with
  | nil => exact hus
  | reads hcode hx _ ih =>
    rw [Option.or_assoc]
    exact .reads hcode hx ih
  -- what is put behind a thread that accepts is hidden as well
  | accepts ts hcode => exact .accepts (ts ++ us) hcode

theorem eq_none (h : Promise p text i [] o) : o = none := by
  cases h
  rfl

end Thread.Promise

/-! ## Following -/

/-- The threads of a front yield `o`, and each instruction that is reached yields nothing else: it is pending, or it
yields nothing, or something preferred to it was found. -/
structure Front.Promises (p : Program) (text : Text) (i : Nat) (pending : Nat → Prop) (f : Front)
    (o : Option Spot) : Prop where
  threads : Thread.Promise p text i f.threads.reverse o
  spent : ∀ q, f.Has q → pending q ∨ o.isSome ∨ p.Yields text q i none

namespace Front.Promises

variable {p : Program} {text : Text} {i q : Nat} {pending : Nat → Prop} {f : Front} {o x : Option Spot}

theorem start (p : Program) (text : Text) (i : Nat) : (start p).Promises p text i (fun _ => False) none where
  threads := .nil
  spent q hq := by
    -- only places behind the code count as reached
    have hnone : p.code[q]? = none := by
      refine Array.getElem?_eq_none (Nat.le_of_not_lt fun hlt => ?_)
      simp [Has, Front.start, Array.getD_eq_getD_getElem?, hlt] at hq
    exact .inr (.inr ⟨1, by simp only [Program.attempt, hnone]⟩)

theorem reach (hf : f.Promises p text i pending o) : (f.reach q).Promises p text i (fun r => r = q ∨ pending r) o where
  threads := hf.threads
  spent r hr := by
    rcases has_reach.mp hr with rfl | hr
    · exact .inl (.inl rfl)
    · exact (hf.spent r hr).imp_left .inr

/-- What comes out of an instruction that was reached before is known already. -/
theorem known {n : Nat} {marks : Marks} (hf : f.Promises p text i pending o) (hq : f.Has q)
    (hx : p.attempt text n q i = some x) (hpending : ∀ r, pending r → p.attempt text n r i = none) :
    f.Promises p text i pending (o.or (x.map (·.behind marks))) := by
  suffices h : o.or (x.map (·.behind marks)) = o by
    rw [h]
    exact hf
  rcases hf.spent q hq with hq | hsome | hnone
  · rw [hpending q hq] at hx
    contradiction
  · exact Option.or_of_isSome hsome
  · rw [Program.Yields.unique ⟨n, hx⟩ hnone, Option.map_none, Option.or_none]

/-- Behind an instruction that yields `x` there is something preferred to it, or it yields nothing. -/
theorem settle {marks : Marks} (hx : p.Yields text q i x)
    (hf : f.Promises p text i (fun r => r = q ∨ pending r) (o.or (x.map (·.behind marks)))) :
    f.Promises p text i pending (o.or (x.map (·.behind marks))) where
  threads := hf.threads
  spent r hr := by
    rcases hf.spent r hr with (rfl | hr) | hr
    · cases x with
      | none => exact .inr (.inr hx)
      | some s => exact .inr (.inl (by simp))
    · exact .inl hr
    · exact .inr hr

theorem push {t : Thread} {o' : Option Spot} (hf : f.Promises p text i pending o)
    (ht : Thread.Promise p text i [t] o') :
    (Front.mk f.reached (t :: f.threads)).Promises p text i pending (o.or o') where
  threads := by
    rw [List.reverse_cons]
    exact hf.threads.append ht
  spent r hr := by
    rcases hf.spent r hr with hr | hr | hr
    · exact .inl hr
    · exact .inr (.inl (by rw [Option.isSome_or, hr, Bool.true_or]))
    · exact .inr (.inr hr)

end Front.Promises

namespace Program

variable {p : Program} {text : Text} {i : Nat}

/-- A thread that is followed adds what backtracking yields from it. Pending instructions are those from which
backtracking takes longer, so it does not come back to them. -/
theorem promises_follow {n fuel q : Nat} {marks : Marks} {f : Front} {pending : Nat → Prop}
    {o x : Option Spot} (hfuel : f.unreached ≤ fuel) (hx : p.attempt text n q i = some x)
    (hpending : ∀ r, pending r → p.attempt text n r i = none) (hf : f.Promises p text i pending o) :
    (p.follow (cursorAt text i) fuel q marks f).Promises p text i pending
      (o.or (x.map (·.behind marks))) := by
  induction n generalizing fuel q marks f pending o x with
  | zero => contradiction
  | succ n ih =>
    by_cases hq : f.Has q
    · rw [follow_has hq]
      exact hf.known hq hx hpending
    -- with less fuel either the answer is the same, or this is the fuel that it takes from here
    cases hn : p.attempt text n q i with
    | some y =>
      obtain rfl := Option.some.inj ((attempt_succ hn).symm.trans hx)
      exact ih hfuel hn (fun r hr => attempt_eq_none (hpending r hr)) hf
    | none =>
      have hyields : p.Yields text q i x := ⟨n + 1, hx⟩
      have hpending' : ∀ r, r = q ∨ pending r → p.attempt text n r i = none := by
        rintro r (rfl | hr)
        · exact hn
        · exact attempt_eq_none (hpending r hr)
      have hleft := Front.unreached_reach hq
      obtain ⟨fuel, rfl⟩ : ∃ m, fuel = m + 1 := Nat.exists_eq_succ_of_ne_zero (by omega)
      have hreach : (f.reach q).unreached ≤ fuel := by omega
      rw [follow_new hq]
      refine .settle hyields ?_
      -- what is followed next is followed with this instruction pending
      have hvia {next : Nat} {marks' : Marks} {y : Option Spot} (hy : p.attempt text n next i = some y) :=
        @ih fuel next marks' (f.reach q) _ o y hreach hy hpending' hf.reach
      rw [attempt] at hx
      cases hcode : p.code[q]? with
      | none =>
        rw [hcode] at hx
        rw [← Option.some.inj hx, Option.map_none, Option.or_none]
        exact hf.reach
      | some instruction =>
        rw [hcode] at hx
        cases instruction <;> dsimp only at hx ⊢
        case chars set =>
          have ht : Thread.Promise p text i [⟨q, marks⟩] (x.map (·.behind marks)) := by
            rw [← Option.or_none (o := x.map (·.behind marks))]
            exact .reads hcode hyields .nil
          exact hf.reach.push ht
        case accept =>
          rw [← Option.some.inj hx]
          exact hf.reach.push (.accepts [] hcode)
        case jump target => exact hvia hx
        case branch first second =>
          obtain ⟨y, hy, hrest⟩ := Option.bind_eq_some_iff.mp hx
          obtain ⟨z, hz, rfl⟩ := Option.map_eq_some_iff.mp hrest
          have hgrows : (f.reach q).Grows p text i
              (p.follow (cursorAt text i) fuel first marks (f.reach q)) := (follow_grows hreach).1
          rw [Option.map_or, ← Option.or_assoc]
          -- the second branch is followed from the front that the first one leaves
          exact ih (Nat.le_trans hgrows.unreached hreach) hz hpending' (hvia hy)
        case mark slot =>
          obtain ⟨y, hy, rfl⟩ := Option.map_eq_some_iff.mp hx
          have hmarks : (y.map (·.behind [(slot, i)])).map (·.behind marks) =
              y.map (·.behind ((slot, i) :: marks)) := by
            rw [Option.map_map]
            congr 1
            funext s
            exact Spot.behind_behind s _ _
          rw [hmarks]
          exact hvia hy
        case assertion a =>
          split at hx
          · next hholds =>
            rw [show a.holds (cursorAt text i).before (cursorAt text i).after = true from hholds, if_pos rfl]
            exact hvia hx
          · next hholds =>
            rw [if_neg (show ¬ a.holds (cursorAt text i).before (cursorAt text i).after = true from hholds),
              ← Option.some.inj hx, Option.map_none, Option.or_none]
            exact hf.reach

/-! ## Advancing -/

/-- What some threads yield is found at once, or is what the threads behind the next character yield. -/
theorem promises_advance {c : Char} {ts : List Thread} {f : Front} {o before : Option Spot}
    (hc : text[i]? = some c) (hts : Thread.Promise p text i ts o)
    (hsize : f.unreached ≤ p.code.size) (hf : f.Promises p text (i + 1) (fun _ => False) before) :
    ∃ later, (p.advance c (cursorAt text (i + 1)) ts f).1.Promises p text (i + 1) (fun _ => False)
        (before.or later) ∧
      o.map (·.marks) = (later.map (·.marks)).or (p.advance c (cursorAt text (i + 1)) ts f).2 := by
  induction hts generalizing f before with
  | nil => exact ⟨none, by rw [Option.or_none]; exact hf, rfl⟩
  | @reads t ts set x o hcode hx hts ih =>
    obtain ⟨n, hx⟩ := hx
    cases n with
    | zero => contradiction
    | succ n =>
      simp only [attempt, hcode, hc, Option.any_some] at hx
      rw [advance, hcode]
      dsimp only
      split at hx
      · next hmem =>
        -- the thread is moved behind the character and promises there what it did before it
        rw [if_pos hmem]
        have hgrows := (enter_grows text (i + 1) (t.place + 1) t.marks hsize).1
        have hentered : (p.enter (cursorAt text (i + 1)) (t.place + 1) t.marks f).Promises p text (i + 1)
            (fun _ => False) (before.or (x.map (·.behind t.marks))) :=
          promises_follow hsize hx (fun _ h => absurd h id) hf
        obtain ⟨later, hlater, heq⟩ := ih (Nat.le_trans hgrows.unreached hsize) hentered
        refine ⟨(x.map (·.behind t.marks)).or later, ?_, ?_⟩
        · rw [← Option.or_assoc]
          exact hlater
        · rw [Option.map_or, heq, Option.map_or, Option.or_assoc]
      · next hmem =>
        rw [if_neg hmem, ← Option.some.inj hx, Option.map_none, Option.none_or]
        exact ih hsize hf
  | @accepts t ts hcode =>
    rw [advance, hcode]
    exact ⟨none, by rw [Option.or_none]; exact hf, rfl⟩

/-! ## Runs -/

/-- At the end of the text the first thread that accepts keeps the promise. -/
theorem accepted_of_promise {ts : List Thread} {o : Option Spot} (hend : text[i]? = none)
    (hts : Thread.Promise p text i ts o) : p.accepted? ts = o.map (·.marks) := by
  induction hts with
  | nil => rfl
  | @reads t ts set x o hcode hx hts ih =>
    have hstop : p.Yields text t.place i none := yields_read hcode (by simp [hend]) (fun _ => rfl)
    rw [hx.unique hstop, Option.map_none, Option.none_or, ← ih, accepted?, accepted?,
      List.find?_cons_of_neg (by simp [hcode])]
  | @accepts t ts hcode =>
    rw [accepted?, List.find?_cons_of_pos (by simp [hcode])]
    rfl

/-- A run finds what its threads yield. -/
theorem run_eq {cs : List Char} {ts : List Thread} {best : Option Marks} {o : Option Spot} (hrest : text.drop i = cs)
    (hts : Thread.Promise p text i ts o) : p.run i ts best cs = (o.map (·.marks)).or best := by
  induction cs generalizing i ts best o with
  | nil =>
    have hend : text[i]? = none := by
      rw [← List.head?_drop, hrest, List.head?_nil]
    rw [run, accepted_of_promise hend hts]
  | cons c cs ih =>
    obtain ⟨hc, hcs, hcursor⟩ := cursorAt_succ hrest
    have hsize : (Front.start p).unreached ≤ p.code.size := Nat.le_of_eq (Front.unreached_start p)
    obtain ⟨later, hlater, heq⟩ := promises_advance hc hts hsize (.start p text (i + 1))
    rw [run, ← hcursor]
    dsimp only
    rw [heq, Option.or_assoc]
    split
    · next hempty =>
      have hnone := hlater.threads
      rw [List.isEmpty_iff.mp hempty] at hnone
      rw [Option.none_or] at hnone
      rw [hnone.eq_none, Option.map_none, Option.none_or]
    · exact ih hcs hlater.threads

/-! ## Searches -/

/-- The machine finds at a place what backtracking yields there. -/
theorem matchAt_eq {x : Option Spot} (hx : p.Yields text 0 i x) :
    p.matchAt? i (text.before i) (text.drop i) = x.map (·.marks) := by
  obtain ⟨n, hx⟩ := hx
  have hsize : (Front.start p).unreached ≤ p.code.size := Nat.le_of_eq (Front.unreached_start p)
  have hstart : (p.enter (cursorAt text i) 0 [] (.start p)).Promises p text i (fun _ => False)
      (Option.or none (x.map (·.behind []))) :=
    promises_follow hsize hx (fun _ h => absurd h id) (.start p text i)
  rw [matchAt?, List.head?_drop]
  rw [show (p.enter ⟨i, text.before i, text[i]?⟩ 0 [] (.start p)).threads.reverse =
    (p.enter (cursorAt text i) 0 [] (.start p)).threads.reverse from rfl,
    run_eq rfl hstart.threads, Option.or_none, Option.none_or, Option.map_map]
  congr 1
  funext s
  exact List.append_nil s.marks

/-- The search goes through the places from left to right. -/
theorem searchFrom_eq {cs : List Char} (hrest : text.drop i = cs) :
    p.searchFrom? i (text.before i) cs =
      (List.range' i (cs.length + 1)).findSome? fun k => p.matchAt? k (text.before k) (text.drop k) := by
  induction cs generalizing i with
  | nil => rw [searchFrom?, List.length_nil, List.range'_one, List.findSome?_singleton, hrest]
  | cons c cs ih =>
    obtain ⟨hc, hcs, -⟩ := cursorAt_succ hrest
    have hbefore : text.before (i + 1) = some c := by
      rw [Text.before, if_neg (Nat.succ_ne_zero i), Nat.add_sub_cancel, hc]
    rw [searchFrom?, List.length_cons, List.range'_succ, List.findSome?_cons, hrest, ← hbefore, ih hcs]
    cases p.matchAt? i (text.before i) (c :: cs) <;> rfl

/-- A search finds the match at the first place that has one. -/
theorem search_eq (p : Program) (text : Text) : p.search? text =
    (List.range' 0 (text.length + 1)).findSome? fun i => p.matchAt? i (text.before i) (text.drop i) :=
  searchFrom_eq List.drop_zero

/-- A search finds nothing where backtracking yields nothing from any place of the text. -/
theorem search_eq_none_iff {outcome : Nat → Option Spot} (h : ∀ i, i ≤ text.length → p.Yields text 0 i (outcome i)) :
    p.search? text = none ↔ ∀ i, i ≤ text.length → outcome i = none := by
  rw [search_eq, List.findSome?_eq_none_iff]
  simp only [List.mem_range'_1]
  constructor
  · intro hall i hi
    have hnone := hall i ⟨Nat.zero_le i, by omega⟩
    rwa [matchAt_eq (h i hi), Option.map_eq_none_iff] at hnone
  · intro hall i hi
    rw [matchAt_eq (h i (by omega)), hall i (by omega), Option.map_none]

/-- A search finds what backtracking yields from the first place of the text from which it yields something. -/
theorem search_eq_some {outcome : Nat → Option Spot}
    (h : ∀ i, i ≤ text.length → p.Yields text 0 i (outcome i)) {s : Spot} (hi : i ≤ text.length)
    (hs : outcome i = some s) (hfirst : ∀ k < i, outcome k = none) : p.search? text = some s.marks := by
  rw [search_eq, List.findSome?_eq_some_iff]
  -- the places before, which yield nothing, the place itself, and the places after it
  refine ⟨List.range' 0 i, i, List.range' (i + 1) (text.length - i), ?_, ?_, fun k hk => ?_⟩
  · have hsplit : text.length + 1 = i + (text.length - i + 1) := by omega
    rw [hsplit, ← List.range'_append_1, Nat.zero_add, List.range'_succ]
  · rw [matchAt_eq (h i hi), hs, Option.map_some]
  · have hlt := (List.mem_range'_1.mp hk).2
    rw [matchAt_eq (h k (by omega)), hfirst k (by omega), Option.map_none]

/-! ## The program of an expression -/

/-- Backtracking through the program of an expression yields the first way to match the expression. -/
theorem yields_ofExpr {e : Expr} {groups : Nat} (hwf : e.WellFormed) (hloops : e.LoopsAdvance text)
    (hi : i ≤ text.length) : (ofExpr e groups).Yields text 0 i ((e.ways text).capture 0 i).head? := by
  obtain ⟨hstart, hbody, hstop⟩ := (contains_ofExpr e groups).group
  have hall := (realizes_mark hstart).andThen
    ((realizes_code hwf hloops hbody).andThen (realizes_mark hstop))
  rw [← Ways.first?_some]
  refine hall i _ hi fun j _ _ => yields_accept (accepts_ofExpr.mpr ?_)
  rw [Expr.size]
  omega

end Program

end PatternGrammar.Regex
