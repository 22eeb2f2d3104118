import PatternGrammar.CharSet.Breakpoints

/-!
# Comparing sets of characters

Whether a set has a member, whether it has exactly one, and whether two sets have the same members, all found out at
breakpoints.
-/

namespace PatternGrammar.CharSet

def holdsChar (s : CharSet) (n : Nat) : Bool :=
  decide n.isValidChar && s.holds n

def someMember? (s : CharSet) : Option Nat :=
  s.breakpoints.find? s.holdsChar

def isSingle (s : CharSet) : Bool :=
  match s.someMember? with
  | none => false
  -- a member that has no neighbour above it and is alone among the breakpoints
  | some n => !s.holdsChar (n + 1) && s.breakpoints.all fun m => m == n || !s.holdsChar m

def sameMembers (s t : CharSet) : Bool :=
  s == t || (union s t).breakpoints.all fun n => decide (0x110000 ≤ n) || s.holds n == t.holds n

/-- Whether a set is one of ASCII by the way it is built. -/
def isAsciiOnly : CharSet → Bool
  | asciiOnly _ => true
  | _ => false

/-- Whether two sets have the same members and, if these are several, both or neither are of ASCII by the way they are
built. -/
def same (s t : CharSet) : Bool :=
  s.sameMembers t && (s.isAsciiOnly == t.isAsciiOnly || s.isSingle || s.someMember?.isNone)

/-- Sets that agree at their breakpoints have the same members. -/
theorem mem_eq_of_sameMembers {s t : CharSet} (h : s.sameMembers t = true) (c : Char) : s.mem c = t.mem c := by
  simp only [sameMembers, Bool.or_eq_true, beq_iff_eq, List.all_eq_true, decide_eq_true_eq] at h
  rcases h with e | h
  · rw [e]
  have valid : c.toNat < 0xD800 ∨ 0xDFFF < c.toNat ∧ c.toNat < 0x110000 := c.valid
  obtain ⟨p, hp, le, last⟩ := exists_last_le (l := (union s t).breakpoints) (n := c.toNat)
    ⟨0, by simp [breakpoints], Nat.zero_le _⟩
  have hs := holds_last_breakpoint (s := s) le fun q hq => last q (mem_breakpoints_union (.inl hq))
  have ht := holds_last_breakpoint (s := t) le fun q hq => last q (mem_breakpoints_union (.inr hq))
  have agree : s.holds p = t.holds p := (h p hp).resolve_left (by omega)
  exact (hs.symm.trans agree).trans ht

/-- Sets that compare as the same have the same characters. -/
theorem mem_eq_of_same {s t : CharSet} (h : s.same t = true) (c : Char) : s.mem c = t.mem c :=
  mem_eq_of_sameMembers (Bool.and_eq_true_iff.mp h).1 c

end PatternGrammar.CharSet
