import PatternGrammar.Proofs.Regex.Elaborated
import PatternGrammar.Proofs.Regex.WellFormed

/-!
# Flags in front of a pattern

Flags that are set in front of a pattern become the first item of its first branch, and nothing else in its tree changes
(`headed_of_readBody`). The flags match the empty text, and simplification drops what does, so that the expression stays
the same (`Tree.Headed.elaborate`).
-/

namespace PatternGrammar.Regex

/-! ## Flat expressions -/

namespace Expr

/-- An item is neither the empty expression nor a sequence. -/
theorem items_of_mem_items {e f : Expr} (hf : f ∈ e.items) : f.items = [f] := by
  induction e with
  | empty => simp [items] at hf
  | cat e g ihe ihg =>
    rcases List.mem_append.mp hf with hf | hf
    · exact ihe hf
    · exact ihg hf
  | _ =>
    simp only [items, List.mem_singleton] at hf
    rw [hf]
    rfl

/-- Items that are single stay the items of their row. -/
theorem items_ofItems {es : List Expr} (h : ∀ e ∈ es, e.items = [e]) : (ofItems es).items = es := by
  induction es with
  | nil => rfl
  | cons e es ih =>
    obtain ⟨he, hes⟩ := List.forall_mem_cons.mp h
    cases es with
    | nil => exact he
    | cons f es => rw [ofItems, items, ih hes, he, List.singleton_append]

/-- An expression is its items in a row, and has no sequence to the left of another. -/
def Flat (e : Expr) : Prop :=
  ofItems e.items = e

theorem flat_ofItems {es : List Expr} (h : ∀ e ∈ es, e.items = [e]) : (ofItems es).Flat := by
  rw [Flat, items_ofItems h]

theorem flat_sequence (es : List Expr) : (sequence es).Flat := by
  refine flat_ofItems fun f hf => ?_
  obtain ⟨e, -, hfe⟩ := List.mem_flatMap.mp hf
  exact items_of_mem_items hfe

theorem Flat.sequence_eq {e : Expr} (h : e.Flat) : sequence [e] = e := by
  rw [sequence, List.flatMap_singleton, h]

/-- An expression with one branch is that branch. -/
theorem eq_of_branches_eq {e f : Expr} (h : e.branches = [f]) : e = f := by
  cases e with
  | alt e g =>
    have hlength := congrArg List.length h
    have he := List.length_pos_iff.mpr (branches_ne_nil e)
    have hg := List.length_pos_iff.mpr (branches_ne_nil g)
    rw [branches, List.length_append, List.length_singleton] at hlength
    omega
  | _ => exact List.singleton_inj.mp h

theorem eq_of_flatMap_branches_eq {es : List Expr} {f : Expr} (h : es.flatMap branches = [f]) : es = [f] := by
  cases es with
  | nil => simp at h
  | cons e es =>
    rw [List.flatMap_cons] at h
    have hlength := congrArg List.length h
    have he := List.length_pos_iff.mpr (branches_ne_nil e)
    rw [List.length_append, List.length_singleton] at hlength
    cases es with
    | nil =>
      rw [List.flatMap_nil, List.append_nil] at h
      rw [eq_of_branches_eq h]
    | cons g es =>
      have hg := List.length_pos_iff.mpr (branches_ne_nil g)
      rw [List.flatMap_cons, List.length_append] at hlength
      -- two expressions have two branches at least
      omega

theorem flat_ofBranches {es : List Expr} (h : ∀ e, es = [e] → e.Flat) : (ofBranches es).Flat := by
  match es with
  | [] => rfl
  | [e] => exact h e rfl
  | e :: f :: es => rfl

theorem flat_join {es : List Expr} (h : ∀ e, es = [e] → e.Flat) : (join es).Flat := by
  unfold join
  split
  · rfl
  · exact h _ rfl
  · split
    · split
      · rfl
      · exact flat_ofBranches h
    · exact flat_ofBranches h

/-- A choice of rows that are flat is flat, as what they share is taken out as a row. -/
theorem flat_choice {es : List Expr} (h : ∀ e ∈ es, e.Flat) : (choice es).Flat := by
  unfold choice
  extract_lets branches parts
  split
  · next first others n hparts hcommon =>
    have hfirst : first ∈ parts := hparts ▸ List.mem_cons_self
    obtain ⟨b, -, rfl⟩ := List.mem_map.mp hfirst
    refine flat_ofItems fun f hf => ?_
    rcases List.mem_append.mp hf with hf | hf
    · -- the shared beginning is made of items of the first branch
      obtain ⟨p, hp, hfp⟩ := List.mem_flatten.mp hf
      have hmem : f ∈ b.items := by
        rw [← flatten_pieces]
        exact List.mem_flatten.mpr ⟨p, List.mem_of_mem_take hp, hfp⟩
      exact items_of_mem_items hmem
    · exact items_of_mem_items hf
  · refine flat_join fun e he => h e ?_
    rw [eq_of_flatMap_branches_eq he]
    exact List.mem_singleton_self e

end Expr

theorem Tree.keeps_flat : Tree.Keeps (fun _ _ e _ => e.Flat) (fun _ _ es _ => ∀ e ∈ es, e.Flat) where
  empty _ _ := rfl
  flags _ _ _ := rfl
  chars _ _ := rfl
  assertion _ _ _ := rfl
  repetition _ _ _ _ _ _ _ _ _ h := Expr.holds_repeated rfl h fun _ _ => rfl
  capture _ _ _ _ _ _ _ _ := rfl
  flagged _ _ _ _ _ _ _ h := h
  alternation _ _ _ _ _ _ h := Expr.flat_choice h
  concat _ _ _ _ _ _ _ := Expr.flat_sequence _
  nil _ := by simp
  cons _ _ h hs := List.forall_mem_cons.mpr ⟨h, hs⟩

/-- What a tree means is flat. -/
theorem Tree.flat_of_elaborate {t : Tree} {scope after : Scope} {e : Expr}
    (h : t.elaborate scope = .ok (e, after)) : e.Flat :=
  keeps_flat.elaborate h

/-! ## Trees -/

/-- The second tree is the first one with `head` put in front of its first branch. -/
inductive Tree.Headed (head : Tree) : Tree → Tree → Prop
  | empty (span : Span) : Headed head (.empty span) head
  | single (span : Span) (t : Tree) : Headed head t (.concat span [head, t])
  | concat (span span' : Span) (items : List Tree) :
    Headed head (.concat span items) (.concat span' (head :: items))
  | alternation (span span' : Span) {first first' : Tree} (others : List Tree)
    (h : Headed head first first') :
    Headed head (.alternation span (first :: others)) (.alternation span' (first' :: others))

/-- A head that matches the empty text and leads from one scope to another does the same to the trees behind it. -/
theorem Tree.Headed.elaborate {head t t' : Tree} {outer scope after : Scope} {e : Expr}
    (h : Headed head t t') (hhead : head.elaborate outer = .ok (.empty, scope))
    (ht : t.elaborate scope = .ok (e, after)) : t'.elaborate outer = .ok (e, after) := by
  induction h generalizing e after with
  | empty span =>
    rw [Tree.elaborate] at ht
    rw [hhead, ht]
  | single span t =>
    -- the empty expression in front is dropped, and what is left is flat already
    have hflat : Expr.sequence [.empty, e] = e := (Tree.flat_of_elaborate ht).sequence_eq
    simp only [Tree.elaborate, Tree.elaborateAll, hhead, ht, hflat]
  | concat span span' items =>
    rw [Tree.elaborate] at ht
    rw [Tree.elaborate, Tree.elaborateAll, hhead]
    split at ht
    · contradiction
    · next hitems =>
      simp only [hitems]
      exact ht
  | alternation span span' others hfirst ih =>
    rw [Tree.elaborate, Tree.elaborateAll] at ht
    rw [Tree.elaborate, Tree.elaborateAll]
    split at ht
    · contradiction
    · next hall =>
      split at hall
      · contradiction
      · next hone =>
        rw [ih hone]
        simp only at hall ⊢
        rw [hall]
        exact ht

/-! ## Frames -/

/-- The second frame is the first one with `head` put in front of its first branch. -/
inductive Frame.Headed (head : Tree) : Frame → Frame → Prop
  | first (ignoring : Bool) (bodyAt bodyAt' branchAt branchAt' : Span) (items : List Tree) :
    Headed head ⟨none, ignoring, [], bodyAt, items, branchAt⟩
      ⟨none, ignoring, [], bodyAt', items ++ [head], branchAt'⟩
  | later (ignoring : Bool) (bodyAt bodyAt' branchAt : Span) (items branches : List Tree) {t t' : Tree}
    (h : Tree.Headed head t t') :
    Headed head ⟨none, ignoring, branches ++ [t], bodyAt, items, branchAt⟩
      ⟨none, ignoring, branches ++ [t'], bodyAt', items, branchAt⟩

/-- A repetition takes back the last item, unless that sets flags. -/
theorem Frame.takeLast?_eq_some {f g : Frame} {t : Tree} : f.takeLast? = some (t, g) ↔
    (∀ span settings, t ≠ .flags span settings) ∧
      ∃ items, f.items = t :: items ∧ g = { f with items := items } := by
  unfold Frame.takeLast?
  split
  · next hitems => simp [hitems]
  · next span settings items hitems =>
    simp only [hitems, List.cons.injEq, false_iff, not_and, not_exists, reduceCtorEq]
    rintro hflags us ⟨rfl, -⟩
    exact absurd rfl (hflags span settings)
  · next item items hflags hitems =>
    simp only [hitems, Option.some.injEq, Prod.mk.injEq, List.cons.injEq]
    constructor
    · rintro ⟨rfl, rfl⟩
      exact ⟨hflags, items, ⟨rfl, rfl⟩, rfl⟩
    · rintro ⟨-, us, ⟨rfl, rfl⟩, rfl⟩
      exact ⟨rfl, rfl⟩

namespace Frame.Headed

variable {head : Tree} {f f' : Frame}

theorem opened (h : Headed head f f') : f.opened = none ∧ f'.opened = none := by
  cases h with
  | first => exact ⟨rfl, rfl⟩
  | later => exact ⟨rfl, rfl⟩

theorem ignoring_eq (h : Headed head f f') : f'.ignoring = f.ignoring := by
  cases h with
  | first => rfl
  | later => rfl

theorem push (h : Headed head f f') (t : Tree) : Headed head (f.push t) (f'.push t) := by
  cases h with
  | first => exact .first _ _ _ _ _ _
  | later _ _ _ _ _ _ h => exact .later _ _ _ _ _ _ h

theorem ignore (h : Headed head f f') (b : Bool) : Headed head { f with ignoring := b } { f' with ignoring := b } := by
  cases h with
  | first => exact .first _ _ _ _ _ _
  | later _ _ _ _ _ _ h => exact .later _ _ _ _ _ _ h

/-- The branch under way is headed as long as it is the first one. -/
theorem headed_branch {ignoring : Bool} {bodyAt bodyAt' branchAt branchAt' : Span} (items : List Tree)
    (rest : List Char) :
    Tree.Headed head (Frame.branch ⟨none, ignoring, [], bodyAt, items, branchAt⟩ rest)
      (Frame.branch ⟨none, ignoring, [], bodyAt', items ++ [head], branchAt'⟩ rest) := by
  match items with
  | [] => exact .empty _
  | [t] => exact .single _ t
  | t :: u :: ts =>
    simp only [Frame.branch, List.cons_append, List.reverse_cons, List.reverse_append, List.reverse_nil,
      List.nil_append]
    exact .concat _ _ _

theorem nextBranch (h : Headed head f f') (bar rest : List Char) :
    Headed head (f.nextBranch bar rest) (f'.nextBranch bar rest) := by
  cases h with
  | first ignoring bodyAt bodyAt' branchAt branchAt' items =>
    exact .later ignoring bodyAt bodyAt' _ [] [] (headed_branch items bar)
  | later ignoring bodyAt bodyAt' branchAt items branches h =>
    exact .later ignoring bodyAt bodyAt' _ [] (_ :: branches) h

/-- Behind the first branch of an alternation it does not matter what stands in front of it. -/
theorem body_later {ignoring : Bool} {bodyAt branchAt : Span} {items branches : List Tree} {t : Tree}
    (rest : List Char) :
    Frame.body ⟨none, ignoring, branches ++ [t], bodyAt, items, branchAt⟩ rest =
      .alternation (bodyAt.through (.here rest)) (t :: (branches.reverse ++
        [Frame.branch ⟨none, ignoring, [], bodyAt, items, branchAt⟩ rest])) := by
  cases branches with
  | nil => rfl
  | cons u us => simp [Frame.body, Frame.branch]

/-- A body is headed if its frame is. -/
theorem body (h : Headed head f f') (rest : List Char) : Tree.Headed head (f.body rest) (f'.body rest) := by
  cases h with
  | first ignoring bodyAt bodyAt' branchAt branchAt' items => exact headed_branch items rest
  | later ignoring bodyAt bodyAt' branchAt items branches h =>
    rw [body_later, body_later]
    exact .alternation _ _ _ h

/-- Flags in front of a branch cannot be repeated, so what a repetition takes back is the same. -/
theorem takeLast? {span : Span} {settings : List FlagSetting} {t : Tree} {g : Frame}
    (h : Headed (.flags span settings) f f') (ht : f.takeLast? = some (t, g)) :
    ∃ g', f'.takeLast? = some (t, g') ∧ Headed (.flags span settings) g g' := by
  obtain ⟨hflags, us, hitems, rfl⟩ := takeLast?_eq_some.mp ht
  cases h with
  | first ignoring bodyAt bodyAt' branchAt branchAt' items =>
    obtain rfl : items = t :: us := hitems
    exact ⟨_, takeLast?_eq_some.mpr ⟨hflags, _, rfl, rfl⟩, .first _ _ _ _ _ us⟩
  | later ignoring bodyAt bodyAt' branchAt items branches h =>
    obtain rfl : items = t :: us := hitems
    exact ⟨_, takeLast?_eq_some.mpr ⟨hflags, _, rfl, rfl⟩, .later _ _ _ _ us _ h⟩

end Frame.Headed

/-! ## Reading -/

/-- Two stacks of frames, the innermost first, with the same groups open, the bottom of the second one being headed. -/
inductive HeadedStack (head : Tree) : List Frame → List Frame → Prop
  | bottom {f f' : Frame} (h : f.Headed head f') : HeadedStack head [f] [f']
  | inside {f : Frame} {fs fs' : List Frame} (hf : f.opened ≠ none) (h : HeadedStack head fs fs') :
    HeadedStack head (f :: fs) (f :: fs')

namespace HeadedStack

variable {head : Tree} {f f' : Frame} {fs fs' : List Frame}

theorem opened_eq (h : HeadedStack head (f :: fs) (f' :: fs')) : f'.opened = f.opened := by
  cases h with
  | bottom h => rw [h.opened.1, h.opened.2]
  | inside => rfl

theorem ignoring_eq (h : HeadedStack head (f :: fs) (f' :: fs')) : f'.ignoring = f.ignoring := by
  cases h with
  | bottom h => exact h.ignoring_eq
  | inside => rfl

theorem push (h : HeadedStack head (f :: fs) (f' :: fs')) (t : Tree) :
    HeadedStack head (f.push t :: fs) (f'.push t :: fs') := by
  cases h with
  | bottom h => exact .bottom (h.push t)
  | inside hf h => exact .inside hf h

theorem ignore (h : HeadedStack head (f :: fs) (f' :: fs')) (b : Bool) :
    HeadedStack head ({ f with ignoring := b } :: fs) ({ f' with ignoring := b } :: fs') := by
  cases h with
  | bottom h => exact .bottom (h.ignore b)
  | inside hf h => exact .inside hf h

theorem nextBranch (h : HeadedStack head (f :: fs) (f' :: fs')) (bar rest : List Char) :
    HeadedStack head (f.nextBranch bar rest :: fs) (f'.nextBranch bar rest :: fs') := by
  cases h with
  | bottom h => exact .bottom (h.nextBranch bar rest)
  | inside hf h => exact .inside hf h

/-- The item that would be repeated is the same, as flags cannot be repeated. -/
theorem takeLast? {span : Span} {settings : List FlagSetting} {t : Tree} {g : Frame}
    (h : HeadedStack (.flags span settings) (f :: fs) (f' :: fs')) (ht : f.takeLast? = some (t, g)) :
    ∃ g', f'.takeLast? = some (t, g') ∧ HeadedStack (.flags span settings) (g :: fs) (g' :: fs') := by
  cases h with
  | bottom h =>
    obtain ⟨g', hg', hg⟩ := h.takeLast? ht
    exact ⟨g', hg', .bottom hg⟩
  | inside hf h =>
    obtain ⟨-, us, -, rfl⟩ := Frame.takeLast?_eq_some.mp ht
    exact ⟨_, ht, .inside hf h⟩

theorem body (h : HeadedStack head (f :: fs) (f' :: fs')) (hf : f.opened = none) (rest : List Char) :
    Tree.Headed head (f.body rest) (f'.body rest) := by
  cases h with
  | bottom h => exact h.body rest
  | inside hopen => exact absurd hf hopen

/-- The body of a group is the same, and so is the group. -/
theorem close {g : Frame} {gs : List Frame} (h : HeadedStack head (f :: g :: gs) (f' :: fs')) :
    f' = f ∧ ∃ g' gs', fs' = g' :: gs' ∧ HeadedStack head (g :: gs) (g' :: gs') := by
  cases h with
  | inside _ h =>
    cases h with
    | bottom h => exact ⟨rfl, _, _, rfl, .bottom h⟩
    | inside hg h => exact ⟨rfl, _, _, rfl, .inside hg h⟩

end HeadedStack

/-- Reading below flags that are set in front gives the same tree, with the flags put in front of its first branch. -/
theorem headed_of_readBody {span : Span} {settings : List FlagSetting} {fuel : Nat} {frame frame' : Frame}
    {outer outer' : List Frame} {names : List (List Char × Span)} {text : List Char} {t : Tree}
    (hstack : HeadedStack (.flags span settings) (frame :: outer) (frame' :: outer'))
    (h : readBody fuel frame outer names text = .ok t) :
    ∃ t', readBody fuel frame' outer' names text = .ok t' ∧
      Tree.Headed (.flags span settings) t t' := by
  fun_induction readBody fuel frame outer names text generalizing frame' outer' with
  -- faults
  | case2 | case4 | case5 | case11 | case13 | case15 | case17 | case18 | case20 =>
    simp [refuse, refuseAt] at h
  -- the end of the text
  | case1 frame outer names text hopen =>
    obtain rfl := Except.ok.inj h
    simp only [readBody, hstack.opened_eq, hopen]
    exact ⟨_, rfl, hstack.body hopen text⟩
  | case3 fuel frame outer names text hvisible hopen =>
    obtain rfl := Except.ok.inj h
    simp only [readBody, hstack.ignoring_eq, hvisible, hstack.opened_eq, hopen]
    exact ⟨_, rfl, hstack.body hopen []⟩
  -- an opening parenthesis puts the same frame on both stacks
  | case6 =>
    rename_i c rest hvisible here hc after hhead ih
    simp only [readBody, hstack.ignoring_eq, hvisible, hc, hhead, here]
    exact ih (.inside (by simp [Frame.start]) hstack) h
  | case7 =>
    rename_i c rest hvisible here hc name span after hhead ih
    simp only [readBody, hstack.ignoring_eq, hvisible, hc, hhead, here]
    exact ih (.inside (by simp [Frame.start]) hstack) h
  | case8 =>
    rename_i c rest hvisible here hc flags after hhead ignoring ih
    simp only [readBody, hstack.ignoring_eq, hvisible, hc, hhead, here]
    exact ih (.inside (by simp [Frame.start]) hstack) h
  | case9 =>
    rename_i c rest hvisible here hc flags after hhead ignoring inner ih
    have hnext := (hstack.push (.flags (.between here after) flags)).ignore ignoring
    simp only [readBody, hstack.ignoring_eq, hvisible, hc, hhead, here]
    exact ih hnext h
  -- a closing one takes them off again
  | case10 =>
    rename_i c rest hvisible here hopen hclose parenthesis kind f fs hgroup ih
    obtain ⟨rfl, g', gs', rfl, hbelow⟩ := hstack.close
    simp only [readBody, hvisible, hopen, hclose, hgroup]
    exact ih (hbelow.push _) h
  | case12 =>
    rename_i c rest hvisible here hopen hclose hbar ih
    simp only [readBody, hstack.ignoring_eq, hvisible, hopen, hclose, hbar]
    exact ih (hstack.nextBranch here rest) h
  | case14 =>
    rename_i c rest hvisible here hopen hclose hbar hbracket item after hread ih
    simp only [readBody, hstack.ignoring_eq, hvisible, hopen, hclose, hbar, hbracket, hread, here]
    exact ih (hstack.push item) h
  -- a repetition takes the last item back on both
  | case16 fuel frame outer names text c rest hvisible hopen hclose hbar hbracket hc item inner htake count
      after hread ih =>
    obtain ⟨inner', htake', hinner⟩ := hstack.takeLast? htake
    simp only [readBody, hstack.ignoring_eq, hvisible, hopen, hclose, hbar, hbracket, hc, htake', hread]
    exact ih (hinner.push _) h
  | case19 =>
    rename_i c rest hvisible here hopen hclose hbar hbracket hc hbrace item inner htake count after hread ih
    obtain ⟨inner', htake', hinner⟩ := hstack.takeLast? htake
    simp only [readBody, hstack.ignoring_eq, hinner.ignoring_eq, hvisible, hopen, hclose, hbar, hbracket, hc, hbrace,
      htake', hread, here]
    exact ih (hinner.push _) h
  | case21 =>
    rename_i c rest hvisible here hopen hclose hbar hbracket hc hbrace atom after hread ih
    simp only [readBody, hstack.ignoring_eq, hvisible, hopen, hclose, hbar, hbracket, hc, hbrace, hread, here]
    exact ih (hstack.push atom.toTree) h

end PatternGrammar.Regex
