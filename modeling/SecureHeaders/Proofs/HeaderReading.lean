import SecureHeaders.Header.Basic
/-!
Which texts make a header, and which header they make: a token and values that can stand in a
message, kept byte for byte.
-/

namespace SecureHeaders.Header

theorem isBlank_eq_false_of_isTokenChar {c : Char} (h : isTokenChar c = true) :
    Text.isBlank c = false := by
  have key : ∀ n < 128,
      isTokenChar (Char.ofNat n) = true → Text.isBlank (Char.ofNat n) = false := by
    decide
  exact of_isTokenChar (P := fun c => Text.isBlank c = false) key h

theorem IsToken.isAllBlank_eq_false {s : String} (token : IsToken s) :
    Text.isAllBlank s = false := by
  obtain ⟨filled, -, chars⟩ := token
  obtain ⟨c, rest, spelled⟩ := List.exists_cons_of_ne_nil filled
  have first : isTokenChar c = true := List.all_eq_true.1 chars c (by simp [spelled])
  simp [Text.isAllBlank, spelled, isBlank_eq_false_of_isTokenChar first]

/-- The induction is on the texts: reading stops at the first one that no value is made of. -/
theorem readValues_eq_ok_iff {texts : List String} {values : List Value} :
    readValues texts = .ok values ↔ values.map Value.bytes = texts.map Text.bytes := by
  induction texts generalizing values with
  | nil => cases values <;> simp [readValues]
  | cons s rest ih =>
      cases read : Value.ofText? s with
      | none =>
          have none_reads : ∀ v : Value, v.bytes ≠ Text.bytes s := by
            intro v same
            rw [Value.ofText?_eq_some_iff.2 same] at read
            cases read
          cases values <;> simp [readValues, read, none_reads]
      | some v =>
          have bytes := Value.ofText?_eq_some_iff.1 read
          have others : ∀ v' : Value, v'.bytes = Text.bytes s ↔ v = v' := by
            intro v'
            rw [← bytes, ← Value.ext_iff, eq_comm]
          cases values with
          | nil => cases all : readValues rest <;> simp [readValues, read, all, Except.map]
          | cons v' values =>
              rw [List.map_cons, List.map_cons, List.cons.injEq, ← ih, others]
              cases all : readValues rest <;> simp [readValues, read, all, Except.map]

/-- The name is kept in lower case, the values as they are. -/
theorem ofText_eq_ok_iff {name : String} {values : List String} {h : Header} :
    ofText name values = .ok h ↔
      IsToken name ∧ h.name.text = lower name ∧
        h.values.map Value.bytes = values.map Text.bytes := by
  rw [← readValues_eq_ok_iff, ← and_assoc, ← Name.ofText?_eq_some_iff]
  obtain ⟨n, vs, filled⟩ := h
  cases named : Name.ofText? name with
  | none =>
      unfold ofText
      split <;> simp [named]
  | some n' =>
      have token := (Name.ofText?_eq_some_iff.1 named).1
      simp only [ofText, token.isAllBlank_eq_false, Bool.false_eq_true, if_false, named]
      cases readValues values with
      | error s => simp
      | ok read =>
          cases read with
          | nil => simp [filled.symm]
          | cons v read => simp

end SecureHeaders.Header
