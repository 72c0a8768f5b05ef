import SecureHeaders.Header.Basic
/-!
The line that a header is listed with holds tabs and printable ASCII characters and nothing else,
whatever bytes its values have, so it is one line.
-/

namespace SecureHeaders

open Header (Name Value)

namespace Text

/-- A tab or a printable ASCII character. -/
def isPlain (c : Char) : Bool := c == '\t' || 0x20 ≤ c.toNat && c.toNat < 0x7F

theorem mem_intercalate {α : Type} {a : α} {between : List α} {parts : List (List α)}
    (member : a ∈ between.intercalate parts) : a ∈ between ∨ ∃ part ∈ parts, a ∈ part := by
  induction parts with
  | nil => cases member
  | cons part parts ih =>
      cases parts with
      | nil =>
          rw [List.intercalate_singleton] at member
          exact Or.inr ⟨part, List.mem_cons_self, member⟩
      | cons next parts =>
          rw [List.intercalate_cons_cons, List.mem_append, List.mem_append] at member
          rcases member with (own | gap) | later
          · exact Or.inr ⟨part, List.mem_cons_self, own⟩
          · exact Or.inl gap
          · rcases ih later with gap | ⟨other, found, inside⟩
            · exact Or.inl gap
            · exact Or.inr ⟨other, List.mem_cons_of_mem _ found, inside⟩

end Text

open Text (isPlain)

namespace Header

theorem isPlain_of_isTokenChar {c : Char} (token : isTokenChar c = true) :
    isPlain c = true := by
  have all : ∀ n < 128,
      isTokenChar (Char.ofNat n) = true → isPlain (Char.ofNat n) = true := by decide
  exact of_isTokenChar (P := fun c => isPlain c = true) all token

theorem Value.isSome_text?_iff {v : Value} :
    v.text?.isSome = true ↔ v.bytes.all isVisibleByte = true := by
  unfold text?
  split <;> simp [*]

theorem toNat_lt_of_isVisibleByte {b : UInt8} (visible : isVisibleByte b = true) :
    b.toNat < 128 := by
  simp only [isVisibleByte, Bool.or_eq_true, Bool.and_eq_true, beq_iff_eq, decide_eq_true_eq,
    UInt8.lt_iff_toNat_lt] at visible
  rcases visible with rfl | ⟨-, below⟩
  · decide
  · exact Nat.lt_trans below (by decide)

theorem isPlain_of_isVisibleByte {b : UInt8} (visible : isVisibleByte b = true) :
    isPlain (Char.ofNat b.toNat) = true := by
  have all : ∀ n < 128,
      isVisibleByte (UInt8.ofNat n) = true → isPlain (Char.ofNat n) = true := by decide
  have plain := all b.toNat (toNat_lt_of_isVisibleByte visible)
  rw [UInt8.ofNat_toNat] at plain
  exact plain visible

theorem Name.isPlain_text (n : Name) {c : Char} (member : c ∈ n.text.toList) :
    isPlain c = true :=
  isPlain_of_isTokenChar (List.all_eq_true.1 n.isName.1.2.2 c member)

theorem Value.isPlain_display (v : Value) {c : Char} (member : c ∈ v.display.toList) :
    isPlain c = true := by
  unfold display text? at member
  split at member
  · rename_i visible
    rw [Option.getD_some, String.toList_ofList] at member
    obtain ⟨b, inside, rfl⟩ := List.mem_map.1 member
    exact isPlain_of_isVisibleByte (List.all_eq_true.1 visible b inside)
  · have mark : opaqueMark.toList.all isPlain = true := by decide
    exact List.all_eq_true.1 mark c member

theorem isPlain_display (h : Header) {c : Char} (member : c ∈ h.display.toList) :
    isPlain c = true := by
  have colon : (": " : String).toList.all isPlain = true := by decide
  have comma : (", " : String).toList.all isPlain = true := by decide
  rw [display, String.toList_append, String.toList_append, String.toList_intercalate] at member
  rcases List.mem_append.1 member with front | values
  · rcases List.mem_append.1 front with name | gap
    · exact h.name.isPlain_text name
    · exact List.all_eq_true.1 colon c gap
  · rcases Text.mem_intercalate values with gap | ⟨part, found, inside⟩
    · exact List.all_eq_true.1 comma c gap
    · rw [List.map_map] at found
      obtain ⟨v, -, rfl⟩ := List.mem_map.1 found
      exact v.isPlain_display inside

end Header
end SecureHeaders
