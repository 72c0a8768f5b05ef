import SecureHeaders.Text.Basic
/-!
Values of header fields: bytes without controls other than the tab. A value is text only where
every byte is a tab or a printable ASCII character; other values are opaque.
-/

namespace SecureHeaders.Header

open Text (Bytes)

def isValueByte (b : UInt8) : Bool := b == 0x9 || (0x20 ≤ b && b != 0x7F)

def isVisibleByte (b : UInt8) : Bool := b == 0x9 || (0x20 ≤ b && b < 0x7F)

theorem isValueByte_of_isDigit {c : Char} (digit : c.isDigit = true) :
    isValueByte (UInt8.ofNat c.toNat) = true := by
  have all : ∀ n < 58, 48 ≤ n → isValueByte (UInt8.ofNat n) = true := by decide
  have range : 48 ≤ c.toNat ∧ c.toNat ≤ 57 := by
    simpa [Char.isDigit, UInt32.le_iff_toNat_le] using digit
  exact all c.toNat (Nat.lt_succ_of_le range.2) range.1

structure Value where
  bytes : Bytes
  isValid : bytes.all isValueByte = true
deriving DecidableEq

namespace Value

/-- The value with these bytes, if they can stand in one. -/
def ofBytes? (b : Bytes) : Option Value :=
  if h : b.all isValueByte = true then some ⟨b, h⟩ else none

/-- The value whose bytes are those of a text. -/
def ofText? (s : String) : Option Value := ofBytes? (Text.bytes s)

/-- The characters of a value that is text. -/
def text? (v : Value) : Option String :=
  if v.bytes.all isVisibleByte then
    some (String.ofList (v.bytes.map fun b => Char.ofNat b.toNat))
  else none

/-- A number as a value: its decimal digits. -/
def ofNat (n : Nat) : Value where
  bytes := (Nat.toDigits 10 n).map fun c => UInt8.ofNat c.toNat
  isValid := by
    rw [List.all_map, List.all_eq_true]
    intro c member
    exact isValueByte_of_isDigit (Nat.isDigit_of_mem_toDigits (by decide) (by decide) member)

/-- What stands for a value that is not text. -/
def opaqueMark : String := "<opaque>"

def display (v : Value) : String := v.text?.getD opaqueMark

@[ext] theorem ext {a b : Value} (h : a.bytes = b.bytes) : a = b := by
  cases a; cases b; simp_all

theorem ofBytes?_eq_some_iff {b : Bytes} {v : Value} : ofBytes? b = some v ↔ v.bytes = b := by
  unfold ofBytes?
  split
  · simp [Value.ext_iff, eq_comm]
  · rename_i h
    simp only [reduceCtorEq, false_iff]
    rintro rfl
    exact h v.isValid

theorem ofBytes?_eq_none_iff {b : Bytes} : ofBytes? b = none ↔ b.all isValueByte = false := by
  simp [ofBytes?]

theorem ofText?_eq_some_iff {s : String} {v : Value} :
    ofText? s = some v ↔ v.bytes = Text.bytes s :=
  ofBytes?_eq_some_iff

theorem ofText?_eq_none_iff {s : String} :
    ofText? s = none ↔ (Text.bytes s).all isValueByte = false :=
  ofBytes?_eq_none_iff

end Value
end SecureHeaders.Header
