import PatternGrammar.Proofs.Grammar.Deletion

/-!
# Guarded recursion ends

A grammar is strict if it is built so that it takes at least one character whenever it succeeds, and guarded if every
name in it stands behind a strict step of a sequence. Where all definitions are guarded, a definition that is unfolded
inside another one is run on a shorter text, so every run ends, and no more definitions are unfolded inside one another
than the text has characters, and one (`Grammar.BuiltFrom.guarded_ends`).
-/

namespace PatternGrammar

/-! ## Patterns that take something -/

/-- A compiled pattern none of whose matches is empty, in any text. -/
def Pattern.NeverEmpty (p : Pattern) : Prop :=
  ∃ config pattern tree, Pattern.compile config pattern = .ok p ∧ Regex.Tree.ofText pattern = .ok tree ∧
    ∀ (text : Text) (i : Nat), i ≤ text.length → ¬ tree.Matches text config.flags i i

/-- A pattern that never matches the empty text leaves less. -/
theorem Pattern.NeverEmpty.length_stripped_lt {query : Text} {p : Pattern} {x : Extraction}
    (hp : p.NeverEmpty) (hx : p.extract query = some x) : x.stripped.length < query.length := by
  obtain ⟨config, pattern, tree, hcompile, htree, hnever⟩ := hp
  obtain ⟨tree', e, groups, htree', hprogram, hwf, hsame⟩ := Pattern.exists_tree_of_compile hcompile
  obtain rfl : tree = tree' := Except.ok.inj (htree.symm.trans htree')
  obtain ⟨pre, m, post, hquery, hstripped, hmatch, -⟩ := Pattern.exists_cut_of_extract hprogram hwf hx
  have hm : m ≠ [] := by
    intro hm
    have hlength : query.length = pre.length + m.length + post.length := by
      rw [hquery, List.length_append, List.length_append]
    rw [hsame, hm, List.length_nil, Nat.add_zero] at hmatch
    exact hnever query pre.length (by omega) hmatch
  have hpos : 0 < m.length := List.length_pos_iff.mpr hm
  rw [hquery, hstripped]
  simp only [List.length_append]
  omega

/-! ## Runs that end -/

namespace Run

variable {ν α β : Type} {o : Option (Run ν α)}

/-- Two runs in a row give something if the first one does, and the second one does behind its result. -/
theorem exists_andThen {next : α → Text → Option (Run ν β)} (ho : ∃ r, o = some r)
    (hnext : ∀ r a rest, o = some r → r.outcome = some (a, rest) → ∃ s, next a rest = some s) :
    ∃ s, (o.bind fun r => r.andThen next) = some s := by
  obtain ⟨r, hr⟩ := ho
  rw [hr, Option.bind_some, andThen]
  cases houtcome : r.outcome with
  | none => exact ⟨_, rfl⟩
  | some x =>
    obtain ⟨s, hs⟩ := hnext r x.1 x.2 hr houtcome
    dsimp only
    rw [hs]
    exact ⟨_, rfl⟩

theorem exists_otherwise {event : Event ν} {next : Unit → Option (Run ν α)} (ho : ∃ r, o = some r)
    (hnext : ∃ s, next () = some s) : ∃ s, (o.bind fun r => r.otherwise event next) = some s := by
  obtain ⟨r, hr⟩ := ho
  obtain ⟨s, hs⟩ := hnext
  rw [hr, Option.bind_some, otherwise]
  cases r.outcome with
  | none =>
    dsimp only
    rw [hs]
    exact ⟨_, rfl⟩
  | some x => exact ⟨r, rfl⟩

theorem exists_firstOf {n : Nat} {ps : Fin n → Text → Option (Run ν α)} (input : Text) (index : Nat)
    (hps : ∀ i, ∃ r, ps i input = some r) : ∃ s, firstOf input index (List.ofFn ps) = some s := by
  induction n generalizing index with
  | zero =>
    rw [List.ofFn_zero]
    exact ⟨_, rfl⟩
  | succ n ih =>
    rw [List.ofFn_succ, firstOf]
    exact exists_otherwise (hps 0) (ih (index + 1) fun i => hps i.succ)

theorem exists_map {o : Option (Run ν α)} {f : Run ν α → Run ν β} (ho : ∃ r, o = some r) : ∃ s, o.map f = some s := by
  obtain ⟨r, hr⟩ := ho
  rw [hr]
  exact ⟨_, rfl⟩

/-! ## Runs that leave short texts -/

/-- What is left by a run that succeeds is shorter than `n`. -/
def Below (n : Nat) (o : Option (Run ν α)) : Prop :=
  ∀ r a rest, o = some r → r.outcome = some (a, rest) → rest.length < n

namespace Below

variable {m n : Nat}

theorem mono (ho : Below m o) (hmn : m ≤ n) : Below n o :=
  fun r a rest hr houtcome => Nat.lt_of_lt_of_le (ho r a rest hr houtcome) hmn

theorem map (ho : Below n o) (f : α → β) : Below n (o.map (.map f)) := by
  intro s b rest hs houtcome
  obtain ⟨r, hr, rfl⟩ := Option.map_eq_some_iff.mp hs
  have hleft : r.outcome.map (·.2) = some rest := by rw [← left_map f, houtcome, Option.map_some]
  obtain ⟨⟨a, rest'⟩, houtcome', rfl⟩ := Option.map_eq_some_iff.mp hleft
  exact ho r a rest' hr houtcome'

theorem after (ho : Below n o) (events : List (Event ν)) : Below n (o.map (.after events)) := by
  intro s a rest hs houtcome
  obtain ⟨r, hr, rfl⟩ := Option.map_eq_some_iff.mp hs
  exact ho r a rest hr houtcome

/-- What is left behind two steps is shorter if both leave less than the bound allows. -/
theorem andThen {next : α → Text → Option (Run ν β)} (ho : Below m o)
    (hnext : ∀ a rest, rest.length < m → Below n (next a rest)) : Below n (o.bind fun r => r.andThen next) := by
  intro s b rest hs houtcome
  obtain ⟨r, hr, ⟨-, rfl⟩ | ⟨a, mid, s', hmid, hs', rfl⟩⟩ := andThen_eq_some.mp hs
  · contradiction
  · exact hnext a mid (ho r a mid hr hmid) s' b rest hs' houtcome

theorem success {a : α} {rest : Text} (h : rest.length < n) : Below n (some (.success a rest : Run ν α)) := by
  intro r b rest' hr houtcome
  obtain rfl := Option.some.inj hr
  obtain ⟨-, rfl⟩ := Prod.mk.inj (Option.some.inj houtcome)
  exact h

/-- Two steps, neither of which adds anything and one of which takes something. -/
theorem sequence {next : α → Text → Option (Run ν β)} (ho : Below (n + 1) o)
    (hnext : ∀ a rest, Below (rest.length + 1) (next a rest))
    (htakes : Below n o ∨ ∀ a rest, Below rest.length (next a rest)) : Below n (o.bind fun r => r.andThen next) := by
  rcases htakes with hfirst | hsecond
  · exact hfirst.andThen fun a rest hrest => (hnext a rest).mono hrest
  · exact ho.andThen fun a rest hrest => (hsecond a rest).mono (Nat.le_of_lt_succ hrest)

theorem otherwise {event : Event ν} {next : Unit → Option (Run ν α)} (ho : Below n o)
    (hnext : Below n (next ())) : Below n (o.bind fun r => r.otherwise event next) := by
  intro s a rest hs houtcome
  obtain ⟨r, hr, ⟨-, rfl⟩ | ⟨-, s', hs', rfl⟩⟩ := otherwise_eq_some.mp hs
  · exact ho s a rest hr houtcome
  · exact hnext s' a rest hs' houtcome

theorem firstOf {k : Nat} {ps : Fin k → Text → Option (Run ν α)} (input : Text) (index : Nat)
    (hps : ∀ i, Below n (ps i input)) : Below n (Run.firstOf input index (List.ofFn ps)) := by
  induction k generalizing index with
  | zero =>
    rw [List.ofFn_zero]
    intro r a rest hr houtcome
    obtain rfl := Option.some.inj hr
    contradiction
  | succ k ih =>
    rw [List.ofFn_succ, Run.firstOf]
    exact (hps 0).otherwise (ih (index + 1) fun i => hps i.succ)

end Below

end Run

/-! ## Strict and guarded grammars -/

namespace Grammar

variable {ν : Type} {τ : ν → Type}

/-- A grammar is built so that it takes something whenever it succeeds. -/
def Strict : {α : Type} → Grammar τ α → Prop
  | _, regex p _ => p.NeverEmpty
  | _, fromFn f => ∀ text a rest, f text = some (a, rest) → rest.length < text.length
  | _, pure _ => False
  | _, map _ p => p.Strict
  | _, replace p _ => p.Strict
  | _, apply p q => p.Strict ∨ q.Strict
  | _, keepRight p q => p.Strict ∨ q.Strict
  -- what the second step takes is not taken out of the text
  | _, keepLeft p _ => p.Strict
  | _, orElse p q => p.Strict ∧ q.Strict
  | _, oneOf ps => ∀ i, (ps i).Strict
  | _, tuple2 p q => p.Strict ∨ q.Strict
  | _, tuple3 p q s => p.Strict ∨ q.Strict ∨ s.Strict
  | _, lazy _ => False
  | _, behind _ p => p.Strict
  | _, probe _ p => p.Strict

/-- Every name in a grammar stands in a step of a sequence that has a strict step before it. -/
def Guarded : {α : Type} → Grammar τ α → Prop
  | _, regex _ _ => True
  | _, fromFn _ => True
  | _, pure _ => True
  | _, map _ p => p.Guarded
  | _, replace p _ => p.Guarded
  | _, apply p q => p.Guarded ∧ (p.Strict ∨ q.Guarded)
  | _, keepRight p q => p.Guarded ∧ (p.Strict ∨ q.Guarded)
  | _, keepLeft p q => p.Guarded ∧ (p.Strict ∨ q.Guarded)
  | _, orElse p q => p.Guarded ∧ q.Guarded
  | _, oneOf ps => ∀ i, (ps i).Guarded
  | _, tuple2 p q => p.Guarded ∧ (p.Strict ∨ q.Guarded)
  | _, tuple3 p q s => p.Guarded ∧ (p.Strict ∨ q.Guarded) ∧ (p.Strict ∨ q.Strict ∨ s.Guarded)
  | _, lazy _ => False
  | _, behind _ p => p.Guarded
  | _, probe _ p => p.Guarded

theorem anyChar_strict : (anyChar : Grammar τ Char).Strict := by
  rintro (_ | ⟨c, cs⟩) a rest h
  · contradiction
  · obtain ⟨-, rfl⟩ := Prod.mk.inj (Option.some.inj h)
    exact Nat.lt_succ_self cs.length

/-! ## Strict grammars take something -/

section

variable {known : ν → Prop} {body : (name : ν) → Grammar τ (τ name)}

/-- No grammar leaves more than it was given. -/
theorem below_of_builtFrom {depth : Nat} {α : Type} {g : Grammar τ α}
    (hbody : ∀ name, known name → (body name).BuiltFrom (.deleting known)) (hg : g.BuiltFrom (.deleting known))
    (input : Text) : Run.Below (input.length + 1) (g.runWith (unfolding body depth) input) := by
  intro r a rest hr houtcome
  have hleaves : g.Leaves body input rest := ⟨r, a, ⟨depth, hr⟩, houtcome⟩
  exact Nat.lt_succ_of_le (hleaves.sublist hbody hg).length_le

/-- A strict grammar leaves less than it was given. -/
theorem Strict.below {depth : Nat} (hbody : ∀ name, known name → (body name).BuiltFrom (.deleting known))
    {α : Type} {g : Grammar τ α} (hg : g.BuiltFrom (.deleting known)) (hstrict : g.Strict)
    (input : Text) : Run.Below input.length (g.runWith (unfolding body depth) input) := by
  have hkeeps {α : Type} {p : Grammar τ α} (hp : p.BuiltFrom (.deleting known)) (text : Text) :
      Run.Below (text.length + 1) (p.runWith (unfolding body depth) text) := below_of_builtFrom hbody hp text
  induction g generalizing input with
  | regex p i =>
    intro r a rest hr houtcome
    obtain rfl := Option.some.inj hr
    rw [Run.outcome_ofPattern] at houtcome
    obtain ⟨x, hx, heq⟩ := Option.map_eq_some_iff.mp houtcome
    obtain ⟨-, rfl⟩ := Prod.mk.inj heq
    exact hstrict.length_stripped_lt hx
  | fromFn f =>
    intro r a rest hr houtcome
    obtain rfl := Option.some.inj hr
    exact hstrict input a rest houtcome
  | pure a => exact hstrict.elim
  | map f p ih => exact (ih hg hstrict input).map _
  | replace p b ih => exact (ih hg hstrict input).map _
  | apply p q ihp ihq =>
    exact .sequence (hkeeps hg.1 input) (fun f rest => (hkeeps hg.2 rest).map _)
      (hstrict.imp (fun hp => ihp hg.1 hp input) fun hq f rest =>
        (ihq hg.2 hq rest).map _)
  | keepRight p q ihp ihq =>
    exact .sequence (hkeeps hg.1 input) (fun _ rest => hkeeps hg.2 rest)
      (hstrict.imp (fun hp => ihp hg.1 hp input) fun hq _ rest => ihq hg.2 hq rest)
  | keepLeft p q ihp ihq =>
    exact (ihp hg.1 hstrict input).andThen fun a rest hrest =>
      (hkeeps hg.2 rest).andThen fun _ _ _ => .success hrest
  | orElse p q ihp ihq =>
    exact (ihp hg.2.1 hstrict.1 input).otherwise (ihq hg.2.2 hstrict.2 input)
  | oneOf ps ih => exact .firstOf input 0 fun i => ih i (hg.2 i) (hstrict i) input
  | tuple2 p q ihp ihq =>
    exact .sequence (hkeeps hg.1 input) (fun a rest => (hkeeps hg.2 rest).map _)
      (hstrict.imp (fun hp => ihp hg.1 hp input) fun hq a rest =>
        (ihq hg.2 hq rest).map _)
  | tuple3 p q s ihp ihq ihs =>
    -- the last two steps are a sequence that is run on what the first one left
    refine .sequence (hkeeps hg.1 input) (fun a rest => ?_) (hstrict.imp (fun hp => ihp hg.1 hp input) ?_)
    · exact (hkeeps hg.2.1 rest).andThen fun b rest' hrest' =>
        ((hkeeps hg.2.2 rest').map _).mono hrest'
    · intro hlater a rest
      exact .sequence (hkeeps hg.2.1 rest) (fun b rest' => (hkeeps hg.2.2 rest').map _)
        (hlater.imp (fun hq => ihq hg.2.1 hq rest) fun hs b rest' =>
          (ihs hg.2.2 hs rest').map _)
  | lazy name => exact hstrict.elim
  | behind pointer p ih => exact ih hg hstrict input
  | probe label p ih => exact (ih hg hstrict input).after _

theorem Leaves.length_lt {α : Type} {p : Grammar τ α} {input rest : Text} (h : p.Leaves body input rest)
    (hbody : ∀ name, known name → (body name).BuiltFrom (.deleting known))
    (hp : p.BuiltFrom (.deleting known)) (hstrict : p.Strict) : rest.length < input.length := by
  obtain ⟨r, a, ⟨depth, hr⟩, houtcome⟩ := h
  exact hstrict.below hbody hp input r a rest hr houtcome

/-! ## How deep definitions are unfolded -/

/-- A text is shorter than `n`, or just as long and something else holds. With a guarded grammar there is room for `n`
definitions inside one another, as something is taken before one is unfolded. -/
def Room (n : Nat) (input : Text) (Q : Prop) : Prop :=
  input.length < n ∨ input.length ≤ n ∧ Q

theorem Room.imp {n : Nat} {input : Text} {Q Q' : Prop} (h : Room n input Q) (hQ : Q → Q') : Room n input Q' :=
  Or.imp_right (And.imp_right hQ) h

/-- Room for two things is room for each of them. -/
theorem Room.split {n : Nat} {input : Text} {Q Q' : Prop} (h : Room n input (Q ∧ Q')) :
    Room n input Q ∧ Room n input Q' :=
  ⟨h.imp And.left, h.imp And.right⟩

/-- A step of a sequence has as much room as the sequence, as a strict step before it has made the text shorter. -/
theorem Room.step {α : Type} {p : Grammar τ α} {n : Nat} {input rest : Text} {Q : Prop}
    (h : Room n input (p.Strict ∨ Q)) (hp : p.Leaves body input rest)
    (hbody : ∀ name, known name → (body name).BuiltFrom (.deleting known))
    (hbuilt : p.BuiltFrom (.deleting known)) : Room n rest Q := by
  have hle : rest.length ≤ input.length := (hp.sublist hbody hbuilt).length_le
  rcases h with hlt | ⟨hlen, hstrict | hQ⟩
  · exact .inl (Nat.lt_of_le_of_lt hle hlt)
  · have hshorter : rest.length < input.length := hp.length_lt hbody hbuilt hstrict
    exact .inl (Nat.lt_of_lt_of_le hshorter hlen)
  · exact .inr ⟨Nat.le_trans hle hlen, hQ⟩

/-- Where definitions end on texts shorter than `n`, a grammar ends where it has room for `n` of them. -/
theorem exists_runWith {depth n : Nat}
    (hbody : ∀ name, known name → (body name).BuiltFrom (.deleting known))
    (hunfold : ∀ name, known name → ∀ text : Text, text.length < n →
      ∃ r, unfolding body depth name text = some r)
    {α : Type} {g : Grammar τ α} (hg : g.BuiltFrom (.deleting known)) {input : Text}
    (hroom : Room n input g.Guarded) : ∃ r, g.runWith (unfolding body depth) input = some r := by
  have hleaves {α : Type} {p : Grammar τ α} {input rest : Text} {r : Run ν α} {a : α}
      (hr : p.runWith (unfolding body depth) input = some r) (houtcome : r.outcome = some (a, rest)) :
      p.Leaves body input rest := ⟨r, a, ⟨depth, hr⟩, houtcome⟩
  induction g generalizing input with
  | regex p i => exact ⟨_, rfl⟩
  | fromFn f => exact ⟨_, rfl⟩
  | pure a => exact ⟨_, rfl⟩
  | map f p ih => exact Run.exists_map (ih hg hroom)
  | replace p b ih => exact Run.exists_map (ih hg hroom)
  | apply p q ihp ihq =>
    obtain ⟨hp, hq⟩ := hroom.split
    refine Run.exists_andThen (ihp hg.1 hp) fun r f rest hr houtcome => Run.exists_map (ihq hg.2 ?_)
    exact hq.step (hleaves hr houtcome) hbody hg.1
  | keepRight p q ihp ihq =>
    obtain ⟨hp, hq⟩ := hroom.split
    refine Run.exists_andThen (ihp hg.1 hp) fun r a rest hr houtcome => ihq hg.2 ?_
    exact hq.step (hleaves hr houtcome) hbody hg.1
  | keepLeft p q ihp ihq =>
    obtain ⟨hp, hq⟩ := hroom.split
    refine Run.exists_andThen (ihp hg.1 hp) fun r a rest hr houtcome =>
      Run.exists_andThen (ihq hg.2 ?_) fun _ _ _ _ _ => ⟨_, rfl⟩
    exact hq.step (hleaves hr houtcome) hbody hg.1
  | orElse p q ihp ihq =>
    obtain ⟨hp, hq⟩ := hroom.split
    exact Run.exists_otherwise (ihp hg.2.1 hp) (ihq hg.2.2 hq)
  | oneOf ps ih =>
    exact Run.exists_firstOf input 0 fun i => ih i (hg.2 i) (hroom.imp fun h => h i)
  | tuple2 p q ihp ihq =>
    obtain ⟨hp, hq⟩ := hroom.split
    refine Run.exists_andThen (ihp hg.1 hp) fun r a rest hr houtcome => Run.exists_map (ihq hg.2 ?_)
    exact hq.step (hleaves hr houtcome) hbody hg.1
  | tuple3 p q s ihp ihq ihs =>
    obtain ⟨hp, hlater⟩ := hroom.split
    refine Run.exists_andThen (ihp hg.1 hp) fun r a rest hr houtcome => ?_
    -- a strict first step makes room for both steps behind it
    obtain ⟨hq, hs⟩ := ((hlater.imp or_and_left.mpr).step (hleaves hr houtcome) hbody hg.1).split
    refine Run.exists_andThen (ihq hg.2.1 hq) fun r b rest' hr houtcome => Run.exists_map (ihs hg.2.2 ?_)
    exact hs.step (hleaves hr houtcome) hbody hg.2.1
  | lazy name =>
    have hlt : input.length < n := hroom.resolve_right fun h => h.2
    exact hunfold name hg input hlt
  | behind pointer p ih => exact ih hg hroom
  | probe label p ih => exact Run.exists_map (ih hg hroom)

theorem exists_unfolding (hbody : ∀ name, known name → (body name).BuiltFrom (.deleting known))
    (hguarded : ∀ name, known name → (body name).Guarded) {depth : Nat} {name : ν} (hname : known name)
    {text : Text} (hlt : text.length < depth) : ∃ r, unfolding body depth name text = some r := by
  induction depth generalizing name text with
  | zero => exact absurd hlt (Nat.not_lt_zero _)
  | succ depth ih =>
    have hroom : Room depth text (body name).Guarded := .inr ⟨Nat.le_of_lt_succ hlt, hguarded name hname⟩
    exact Run.exists_map (exists_runWith hbody (fun _ hname' _ hlt' => ih hname' hlt') (hbody name hname) hroom)

/-- How many definitions a grammar unfolds itself. -/
def unfoldings {α : Type} : Grammar τ α → Nat
  | lazy _ => 1
  | _ => 0

/-- While a grammar runs on a text, another one is run on some text inside `n` definitions that are unfolded inside one
another. -/
inductive Nests (body : (name : ν) → Grammar τ (τ name)) :
    {α β : Type} → Nat → Grammar τ α → Text → Grammar τ β → Text → Prop where
  | self {α : Type} (g : Grammar τ α) (input : Text) : Nests body 0 g input g input
  | call {α β γ : Type} {n : Nat} {g : Grammar τ α} {g' : Grammar τ β} {g'' : Grammar τ γ}
    {input text text' : Text} (hcall : Calls body g input g' text)
    (hnests : Nests body n g' text g'' text') : Nests body (n + g.unfoldings) g input g'' text'

/-- Calls leave room for as many definitions as are not unfolded by them. -/
theorem Calls.room {α β : Type} {g : Grammar τ α} {g' : Grammar τ β} {n : Nat} {input text : Text}
    (hcall : Calls body g input g' text)
    (hbody : ∀ name, known name → (body name).BuiltFrom (.deleting known))
    (hguarded : ∀ name, known name → (body name).Guarded) (hg : g.BuiltFrom (.deleting known))
    (hroom : Room n input g.Guarded) : g.unfoldings ≤ n ∧ Room (n - g.unfoldings) text g'.Guarded := by
  cases hcall with
  | @lazy name =>
    have hlt : input.length < n := hroom.resolve_right fun h => h.2
    have hle : input.length ≤ n - 1 := by omega
    have hpos : 1 ≤ n := by omega
    exact ⟨hpos, .inr ⟨hle, hguarded name hg⟩⟩
  | map | replace | behind | probe => exact ⟨Nat.zero_le n, hroom⟩
  | applyLeft | keepRightLeft | keepLeftLeft | tuple2Left | tuple3Left | orElseFirst =>
    exact ⟨Nat.zero_le n, hroom.split.1⟩
  | orElseSecond => exact ⟨Nat.zero_le n, hroom.split.2⟩
  | oneOf i => exact ⟨Nat.zero_le n, hroom.imp fun h => h i⟩
  | applyRight hp | keepRightRight hp | keepLeftRight hp | tuple2Right hp =>
    exact ⟨Nat.zero_le n, hroom.split.2.step hp hbody hg.1⟩
  | tuple3Middle hp => exact ⟨Nat.zero_le n, hroom.split.2.split.1.step hp hbody hg.1⟩
  | tuple3Right hp hq =>
    exact ⟨Nat.zero_le n, (hroom.split.2.split.2.step hp hbody hg.1).step hq hbody hg.2.1⟩

/-- Guarded definitions are not unfolded inside one another more often than the text is long, and once more. -/
theorem Nests.le {α β : Type} {g : Grammar τ α} {g' : Grammar τ β} {k n : Nat} {input text : Text}
    (hnests : Nests body k g input g' text)
    (hbody : ∀ name, known name → (body name).BuiltFrom (.deleting known))
    (hguarded : ∀ name, known name → (body name).Guarded) (hg : g.BuiltFrom (.deleting known))
    (hroom : Room n input g.Guarded) : k ≤ n := by
  induction hnests generalizing n with
  | self => exact Nat.zero_le n
  | @call _ _ _ k g _ _ _ _ _ hcall _ ih =>
    obtain ⟨hle, hroom'⟩ := hcall.room hbody hguarded hg hroom
    have hk : k ≤ n - g.unfoldings := ih (hcall.builtFrom hbody hg) hroom'
    omega

end

/-- Over guarded definitions a grammar ends on every text. What it gives is known when definitions are unfolded inside
one another once more often than the text has characters, and they never are deeper. -/
theorem BuiltFrom.guarded_ends {defs : Definitions τ} {α : Type} {g : Grammar τ α}
    (hg : g.BuiltFrom (.deleting (· ∈ defs.names)))
    (hbody : ∀ name ∈ defs.names, (defs.body name).BuiltFrom (.deleting (· ∈ defs.names)))
    (hguarded : ∀ name ∈ defs.names, (defs.body name).Guarded) (input : Text) :
    (∃ r, g.parse defs input = some r ∧
        ∀ depth, input.length + 1 ≤ depth → g.runDepth defs.body depth input = some r) ∧
      ∀ (n : Nat) (β : Type) (g' : Grammar τ β) (text : Text),
        Nests defs.body n g input g' text → n ≤ input.length + 1 := by
  have hroom : Room (input.length + 1) input g.Guarded := .inl (Nat.lt_succ_self _)
  refine ⟨?_, fun n β g' text hnests => hnests.le hbody hguarded hg hroom⟩
  obtain ⟨r, hr⟩ : ∃ r, g.runDepth defs.body (input.length + 1) input = some r :=
    exists_runWith hbody (fun _ hname _ hlt => exists_unfolding hbody hguarded hname hlt) hg hroom
  -- without definitions there is nothing to unfold, and no depth is needed
  obtain ⟨r', hr'⟩ : ∃ r', g.parse defs input = some r' := by
    refine exists_runWith hbody (fun name hname text hlt => ?_) hg hroom
    have hpos : 0 < defs.names.length := List.length_pos_of_mem hname
    have hdepth : input.length + 1 ≤ defs.names.length * (input.length + 1) := Nat.le_mul_of_pos_left _ hpos
    exact exists_unfolding hbody hguarded hname (Nat.lt_of_lt_of_le hlt hdepth)
  obtain rfl : r = r' := Gives.unique ⟨_, hr⟩ ⟨_, hr'⟩
  exact ⟨r, hr', fun depth hle => runDepth_extends hle g input r hr⟩

/-- Two definitions that unfold one another, one behind a parenthesis and the other behind any character. On a text of
three characters four of them are unfolded inside one another. -/
theorem guarded_ends_parentheses :
    ∃ (opening : Pattern) (defs : Definitions fun _ : Bool => Nat) (r : Run Bool Nat),
      Pattern.compile .standard ['^', '\\', '('] = .ok opening ∧
        defs.body true =
          .orElse (.map (· + 1) (.keepRight (.regex opening (.constant ())) (.lazy false))) (.pure 0) ∧
        defs.body false = .keepRight .anyChar (.lazy true) ∧
        (∀ depth, 4 ≤ depth → (Grammar.lazy true).runDepth defs.body depth ['(', 'a', '('] = some r) ∧
        r.outcome = some (1, ['(']) := by
  let opening : Pattern := ⟨['^', '\\', '('],
    .ofExpr (.cat (.assertion .textStart) (.chars (.letter .simple '('.toNat))) 0⟩
  let body : Bool → Grammar (fun _ : Bool => Nat) Nat
    | true => .orElse (.map (· + 1) (.keepRight (.regex opening (.constant ())) (.lazy false))) (.pure 0)
    | false => .keepRight .anyChar (.lazy true)
  let defs : Definitions fun _ : Bool => Nat := ⟨[true, false], body⟩
  have hopening : Pattern.compile .standard ['^', '\\', '('] = .ok opening := by rfl
  have hstrict : opening.NeverEmpty := by
    refine ⟨.standard, ['^', '\\', '('], _, hopening, rfl, fun text i _ hmatch => ?_⟩
    -- the parenthesis is read between the two places
    obtain ⟨j, ⟨hj, -⟩, k, ⟨hk, -⟩, hi⟩ := hmatch
    have hend : k = i := hi
    omega
  have hknown (name : Bool) : name ∈ defs.names := by
    cases name <;> decide
  have hbody (name : Bool) (_ : name ∈ defs.names) :
      (defs.body name).BuiltFrom (.deleting (· ∈ defs.names)) := by
    cases name with
    | true => exact ⟨trivial, ⟨⟨_, _, hopening⟩, hknown false⟩, trivial⟩
    | false => exact ⟨anyChar_deleting, hknown true⟩
  have hguarded (name : Bool) (_ : name ∈ defs.names) : (defs.body name).Guarded := by
    cases name with
    | true => exact ⟨⟨trivial, .inl hstrict⟩, trivial⟩
    | false => exact ⟨trivial, .inl anyChar_strict⟩
  have hg : (Grammar.lazy true : Grammar (fun _ : Bool => Nat) Nat).BuiltFrom (.deleting (· ∈ defs.names)) :=
    hknown true
  obtain ⟨⟨r, hr, hdepth⟩, -⟩ := hg.guarded_ends hbody hguarded ['(', 'a', '(']
  have houtcome : r.outcome = some (1, ['(']) := by
    obtain ⟨s, hs, houtcome⟩ : ∃ s, (Grammar.lazy true).parse defs ['(', 'a', '('] = some s ∧
        s.outcome = some (1, ['(']) := ⟨_, rfl, rfl⟩
    obtain rfl : r = s := Option.some.inj (hr.symm.trans hs)
    exact houtcome
  exact ⟨opening, defs, r, hopening, rfl, rfl, hdepth, houtcome⟩

end Grammar

end PatternGrammar
