import Mathlib.Data.List.Basic
import PatternGrammar.Config.Writer
import PatternGrammar.Proofs.Config.Acceptance

/-!
# Options written and read

The text that options are written as is one of those that write them in the format, so reading it gives the options
back. Among all texts with the same options it is a normal form (`Config.toJson_normal`).
-/

namespace PatternGrammar

namespace Json

/-- A text without quotes, backslashes and control characters stands for itself in a string. -/
theorem spells_self {t : Text} (h : ∀ ch ∈ t, Plain ch) : Spells t t := by
  induction t with
  | nil => exact .nil
  | cons ch t ih => exact .plain (h ch List.mem_cons_self) (ih fun d hd => h d (List.mem_cons_of_mem _ hd))

/-- There need not be white space. -/
theorem blanks_nil : Blanks [] :=
  fun _ h => nomatch h

end Json

namespace Config

open Json (Blanks Key Spells)

variable {s t : List Char} {c d : Config}

/-! ## Members -/

theorem plain_name (f : Field) : ∀ ch ∈ f.name.toList, Json.Plain ch := by
  unfold Json.Plain
  refine List.forall_iff_forall_mem.mp ?_
  cases f <;> decide

/-- An option's value is written as the format spells it. -/
theorem toList_valueText (c : Config) (f : Field) : (c.valueText f).toList = f.literal (c.get f) := by
  have hflag : ∀ b : Bool, (toString b).toList = flagText b := by
    rintro (_ | _) <;> rfl
  have hdigits : ∀ n : Nat, (toString n).toList = Nat.toDigits 10 n := fun n => String.toList_ofList
  cases f with
  | caseInsensitive => exact hflag _
  | multiLine => exact hflag _
  | dotMatchesNewLine => exact hflag _
  | sizeLimit => exact hdigits _
  | nestLimit => exact hdigits _

/-- A member that is written is an entry of the format. -/
theorem entry_member (c : Config) (f : Field) : c.Entry .object [f] (c.member f) := by
  have hkey : Key (Spells f.name.toList) ('"' :: (f.name.toList ++ ['"', ':'])) :=
    ⟨[], f.name.toList, [], Json.blanks_nil, Json.spells_self (plain_name f), Json.blanks_nil, rfl⟩
  have hentry := Entry.known (c := c) hkey Json.blanks_nil
  rwa [← toList_valueText, List.nil_append] at hentry

/-- The members behind a first one. -/
theorem exists_rest_members (c : Config) (f : Field) (fs : List Field) :
    ∃ rest, c.Rest .object fs rest ∧ c.members (f :: fs) = c.member f ++ rest := by
  induction fs generalizing f with
  | nil => exact ⟨[], .done Json.blanks_nil, (List.append_nil _).symm⟩
  | cons g fs ih =>
    obtain ⟨rest, hrest, hmembers⟩ := ih g
    refine ⟨',' :: (c.member g ++ rest), .more Json.blanks_nil (c.entry_member g) hrest, ?_⟩
    rw [members, hmembers]

example : standard.members [.multiLine, .nestLimit] = "\"multi_line\":false,\"nest_limit\":250".toList := by rfl

/-! ## Options -/

/-- What is written is in the format, for the options that it is written for. -/
theorem writtenAs_toJson (c : Config) : c.WrittenAs c.toJson := by
  obtain ⟨rest, hrest, hmembers⟩ := c.exists_rest_members .caseInsensitive
    [.multiLine, .dotMatchesNewLine, .sizeLimit, .nestLimit]
  refine ⟨.object, Field.all, [], c.members Field.all, [], Json.blanks_nil, ?_, Json.blanks_nil, ?_,
    fun f hf => absurd f.mem_all hf, rfl⟩
  · show c.Inside .object _ (c.members (_ :: _))
    rw [hmembers]
    exact .entries (c.entry_member _) hrest
  · show Field.all.Nodup
    decide

/-- Options are read back from what is written. -/
theorem ofJson_toJson (c : Config) : ofJson c.toJson = .ok c := by
  rw [ofJson, read_complete c.writtenAs_toJson]

/-- Different options are written differently. -/
theorem toJson_injective (h : c.toJson = d.toJson) : c = d := by
  have hread := c.ofJson_toJson
  rw [h, ofJson_toJson] at hread
  exact (Except.ok.inj hread).symm

/-- Options are given back from what they are written as, so different ones are written differently. Writing the options
of a text gives a normal form of the text: two texts have one normal form if and only if they have the same options, and
a normal form that is read and written again stays as it is. -/
theorem toJson_normal :
    (∀ c : Config, ofJson c.toJson = .ok c) ∧
      (∀ c d : Config, c ≠ d → c.toJson ≠ d.toJson) ∧
      (∀ {s t : List Char} {c d : Config}, ofJson s = .ok c → ofJson t = .ok d → (c = d ↔ c.toJson = d.toJson)) ∧
      ∀ {s : List Char} {c : Config}, ofJson s = .ok c → (ofJson c.toJson).map toJson = .ok c.toJson := by
  refine ⟨ofJson_toJson, fun c d hne h => hne (toJson_injective h), fun _ _ => ?_, fun _ => ?_⟩
  · exact ⟨congrArg toJson, toJson_injective⟩
  · rw [ofJson_toJson]
    rfl

/-- A list with one value and an object with a member behind white space are the same options, which are not the
standard ones. -/
theorem toJson_normal_spellings :
    ∃ c d : Config, ofJson "[false]".toList = .ok c ∧ ofJson "\x7b \"case_insensitive\" : false\x7d".toList = .ok d ∧
      c.toJson = d.toJson ∧ (ofJson c.toJson).map toJson = .ok d.toJson ∧ standard.toJson ≠ c.toJson := by
  have hlist : ofJson "[false]".toList = .ok caseSensitive := by rfl
  have hobject : ofJson "\x7b \"case_insensitive\" : false\x7d".toList = .ok caseSensitive := by rfl
  obtain ⟨-, hdiffer, hsame, hagain⟩ := toJson_normal
  exact ⟨_, _, hlist, hobject, (hsame hlist hobject).mp rfl, hagain hlist, hdiffer _ _ (by decide)⟩

end Config

end PatternGrammar
