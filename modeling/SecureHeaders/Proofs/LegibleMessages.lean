import Mathlib.Tactic.SplitIfs
import SecureHeaders.Config.Load
import SecureHeaders.Proofs.HeaderLines
import SecureHeaders.Proofs.PrintedAddress
/-!
Messages of faults hold no character that could break the line or hide in it. What they take from a
configuration is either a header name, and so a token, or stands in quotes, where every such
character is replaced by an escape.
-/

namespace SecureHeaders

open Config (Fault)
open Header (Name)

namespace Text

/-- No character of the text is hidden. -/
def Legible (s : String) : Prop := ∀ c ∈ s.toList, isHidden c = false

theorem Legible.append {a b : String} (first : Legible a) (second : Legible b) :
    Legible (a ++ b) := by
  intro c member
  rw [String.toList_append] at member
  rcases List.mem_append.1 member with early | late
  · exact first c early
  · exact second c late

theorem Legible.intercalate {gap : String} {parts : List String} (between : Legible gap)
    (all : ∀ s ∈ parts, Legible s) : Legible (String.intercalate gap parts) := by
  intro c member
  rw [String.toList_intercalate] at member
  rcases mem_intercalate member with own | ⟨part, found, inside⟩
  · exact between c own
  · obtain ⟨s, listed, rfl⟩ := List.mem_map.1 found
    exact all s listed c inside

/-- A printable ASCII character. -/
def isGraphic (c : Char) : Bool := 0x20 ≤ c.toNat && c.toNat < 0x7F

/-- No range of a table reaches into the printable ASCII characters. -/
def sparesGraphic (ranges : List (Nat × Nat)) : Bool :=
  ranges.all fun r => r.2 < 0x20 || 0x7F ≤ r.1

theorem inRanges_of_isGraphic {ranges : List (Nat × Nat)} (spared : sparesGraphic ranges = true)
    {c : Char} (graphic : isGraphic c = true) : inRanges ranges c = false := by
  rw [inRanges, List.any_eq_false]
  intro r listed inside
  have side := List.all_eq_true.1 spared r listed
  simp only [isGraphic, Bool.and_eq_true, Bool.or_eq_true, decide_eq_true_eq]
    at graphic side inside
  omega

theorem isHidden_of_isGraphic {c : Char} (graphic : isGraphic c = true) : isHidden c = false := by
  -- The tables are long, so only the bounds of their ranges are looked at, and once for all.
  have controls : sparesGraphic controlRanges = true := by decide
  have others : sparesGraphic hiddenRanges = true := by decide +kernel
  rw [isHidden, inRanges_of_isGraphic controls graphic, inRanges_of_isGraphic others graphic]
  rfl

theorem legible_of_isGraphic {s : String} (graphic : s.toList.all isGraphic = true) : Legible s :=
  fun c member => isHidden_of_isGraphic (List.all_eq_true.1 graphic c member)

theorem isHidden_digitChar {d : Nat} (small : d < 16) : isHidden (Nat.digitChar d) = false := by
  have all : ∀ d < 16, isGraphic (Nat.digitChar d) = true := by decide
  exact isHidden_of_isGraphic (all d small)

theorem isHidden_of_mem_toDigits {radix n : Nat} (least : 1 < radix) (most : radix ≤ 16)
    {c : Char} (member : c ∈ Nat.toDigits radix n) : isHidden c = false := by
  obtain ⟨ds, spells⟩ := Net.exists_spells least n
  rw [spells.printed] at member
  obtain ⟨d, digit, rfl⟩ := List.mem_map.1 member
  exact isHidden_digitChar (Nat.lt_of_lt_of_le (spells.small d digit) most)

theorem isHidden_of_mem_codeEscape {c d : Char} (member : d ∈ codeEscape c) :
    isHidden d = false := by
  have front : Legible "\\u\x7b" := legible_of_isGraphic (by decide)
  have back : Legible "\x7d" := legible_of_isGraphic (by decide)
  rcases List.mem_append.1 member with early | last
  · rcases (List.mem_append (s := ['\\', 'u', '{'])).1 early with opening | digit
    · exact front d opening
    · exact isHidden_of_mem_toDigits (by decide) (by decide) digit
  · exact back d last

theorem quoteChar_cases (c : Char) :
    (∃ mark ∈ "\\\"0tnr".toList, quoteChar c = ['\\', mark]) ∨ quoteChar c = codeEscape c ∨
      isHidden c = false ∧ quoteChar c = [c] := by
  unfold quoteChar
  split_ifs with _ _ _ _ _ _ hidden
  all_goals simp_all

/-- What stands for a character in a quoted text is never hidden, though the character may be. -/
theorem isHidden_of_mem_quoteChar {c d : Char} (member : d ∈ quoteChar c) :
    isHidden d = false := by
  have marks : Legible "\\\"0tnr" := legible_of_isGraphic (by decide)
  rcases quoteChar_cases c with ⟨mark, short, shown⟩ | shown | ⟨apparent, shown⟩
  · rw [shown] at member
    rcases List.mem_cons.1 member with rfl | last
    · exact marks '\\' (by decide)
    · exact marks d (List.mem_singleton.1 last ▸ short)
  · exact isHidden_of_mem_codeEscape (shown ▸ member)
  · rw [shown] at member
    rw [List.mem_singleton.1 member]
    exact apparent

theorem legible_quoted (s : String) : Legible (quoted s) := by
  have quote : Legible "\"" := legible_of_isGraphic (by decide)
  intro c member
  rw [quoted, String.toList_ofList] at member
  rcases List.mem_append.1 member with early | last
  · rcases List.mem_cons.1 early with rfl | inside
    · exact quote '"' (List.mem_singleton.2 rfl)
    · obtain ⟨d, -, shown⟩ := List.mem_flatMap.1 inside
      exact isHidden_of_mem_quoteChar shown
  · exact quote c last

theorem legible_toString (n : Nat) : Legible (toString n) := by
  intro c member
  rw [Nat.toString_eq_repr, Nat.toList_repr] at member
  exact isHidden_of_mem_toDigits (by decide) (by decide) member

end Text

open Text (Legible legible_of_isGraphic)

theorem Header.isHidden_of_isTokenChar {c : Char} (token : isTokenChar c = true) :
    Text.isHidden c = false := by
  have all : ∀ n < 128,
      isTokenChar (Char.ofNat n) = true → Text.isGraphic (Char.ofNat n) = true := by decide
  exact Text.isHidden_of_isGraphic
    (of_isTokenChar (P := fun c => Text.isGraphic c = true) all token)

theorem Header.Name.legible_text (n : Name) : Legible n.text :=
  fun c member => isHidden_of_isTokenChar (List.all_eq_true.1 n.isName.1.2.2 c member)

theorem HeaderError.legible_message (e : HeaderError) : Legible e.message := by
  cases e with
  | emptyName =>
      exact legible_of_isGraphic (by decide)
  | invalidName given =>
      have front : Legible "invalid header name: " := legible_of_isGraphic (by decide)
      exact front.append (Text.legible_quoted given)
  | invalidValue name value =>
      have front : Legible "invalid value " := legible_of_isGraphic (by decide)
      have middle : Legible " for header " := legible_of_isGraphic (by decide)
      exact ((front.append (Text.legible_quoted value)).append middle).append name.legible_text
  | noValues name =>
      have front : Legible "header " := legible_of_isGraphic (by decide)
      have back : Legible " needs at least one value" := legible_of_isGraphic (by decide)
      exact (front.append name.legible_text).append back

namespace Config

theorem legible_customPath (index : Nat) : Legible (customPath index) := by
  have front : Legible "headers.custom[" := legible_of_isGraphic (by decide)
  have back : Legible "]: " := legible_of_isGraphic (by decide)
  exact (front.append (Text.legible_toString index)).append back

theorem AddressField.legible_path (field : AddressField) : Legible field.path := by
  cases field <;> exact legible_of_isGraphic (by decide)

theorem Fault.legible_message (fault : Fault) : Legible fault.message := by
  cases fault with
  | invalidAddress field value =>
      have middle : Legible ": invalid socket address " := legible_of_isGraphic (by decide)
      exact (field.legible_path.append middle).append (Text.legible_quoted value)
  | zeroTimeout =>
      exact legible_of_isGraphic (by decide)
  | invalidHeader index source =>
      exact (legible_customPath index).append source.legible_message
  | duplicateHeader index name =>
      have middle : Legible "duplicate header " := legible_of_isGraphic (by decide)
      exact ((legible_customPath index).append middle).append name.legible_text
  | managedHeader index name =>
      have back : Legible " is managed by its own section" := legible_of_isGraphic (by decide)
      exact ((legible_customPath index).append name.legible_text).append back

/-- The message of a rejected configuration, whatever texts its faults take from it. -/
theorem LoadError.legible_message_invalid (faults : List Fault) :
    Legible (LoadError.invalid faults).message := by
  have front : Legible "Validation failed: " := legible_of_isGraphic (by decide)
  have comma : Legible ", " := legible_of_isGraphic (by decide)
  refine front.append (comma.intercalate ?_)
  intro s listed
  obtain ⟨fault, -, rfl⟩ := List.mem_map.1 listed
  exact fault.legible_message

end Config
end SecureHeaders
