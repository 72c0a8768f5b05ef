/-!
Characters and small texts: the blanks of Unicode, hexadecimal digits, code points, compound names
in kebab case, and the bytes of a text in UTF-8. Main statements: a text is read back from its
bytes, `ofBytes?_bytes`; and ASCII characters are the bytes below 128, `bytes_of_ascii` and
`ascii_of_bytes`.
-/

namespace SecureHeaders.Text

def inRanges (ranges : List (Nat × Nat)) (c : Char) : Bool :=
  ranges.any fun r => r.1 ≤ c.toNat && c.toNat ≤ r.2

/-- The White_Space property, in ascending order. -/
def blankRanges : List (Nat × Nat) :=
  [(0x9, 0xD), (0x20, 0x20), (0x85, 0x85), (0xA0, 0xA0), (0x1680, 0x1680), (0x2000, 0x200A),
   (0x2028, 0x2029), (0x202F, 0x202F), (0x205F, 0x205F), (0x3000, 0x3000)]

def isBlank (c : Char) : Bool := inRanges blankRanges c

def trim (s : List Char) : List Char := ((s.dropWhile isBlank).reverse.dropWhile isBlank).reverse

def isAllBlank (s : String) : Bool := s.toList.all isBlank

theorem isAllBlank_iff {s : String} : isAllBlank s = true ↔ ∀ c ∈ s.toList, isBlank c = true := by
  simp [isAllBlank]

def hexDigit? (c : Char) : Option Nat :=
  if c.isDigit then some (c.toNat - 0x30)
  else if 'a' ≤ c && c ≤ 'f' then some (c.toNat - 0x61 + 10)
  else if 'A' ≤ c && c ≤ 'F' then some (c.toNat - 0x41 + 10)
  else none

/-- The character with a code point; surrogates are none. -/
def scalar? (n : Nat) : Option Char :=
  if n < 0xD800 || (0xE000 ≤ n && n < 0x110000) then some (Char.ofNat n) else none

/-- Lower case, with a hyphen in front of each capital. -/
def kebabTail : List Char → List Char
  | [] => []
  | c :: rest =>
    if c.isUpper then '-' :: c.toLower :: kebabTail rest else c :: kebabTail rest

/-- The name in kebab case; its first letter opens the first word. -/
def kebab (s : String) : String :=
  match s.toList with
  | [] => ""
  | c :: rest => String.ofList (c.toLower :: kebabTail rest)

abbrev Bytes := List UInt8

def bytes (s : String) : Bytes := s.toList.flatMap String.utf8EncodeChar

/-- The text with these UTF-8 bytes, if there is one. -/
def ofBytes? (b : Bytes) : Option String := String.fromUTF8? ⟨b.toArray⟩

@[simp] theorem bytes_empty : bytes "" = [] := rfl

theorem bytes_append (a b : String) : bytes (a ++ b) = bytes a ++ bytes b := by
  simp only [bytes, String.toList_append, List.flatMap_append]

theorem utf8EncodeChar_of_ascii {c : Char} (ascii : c.toNat < 128) :
    String.utf8EncodeChar c = [UInt8.ofNat c.toNat] :=
  if_pos (Nat.le_of_lt_succ ascii)

/-- The first byte of any other character is above those of ASCII. -/
theorem exists_mem_utf8EncodeChar {c : Char} (high : 128 ≤ c.toNat) :
    ∃ b ∈ String.utf8EncodeChar c, 128 ≤ b.toNat := by
  have low : ¬ c.val.toNat ≤ 127 := Nat.not_le.2 high
  unfold String.utf8EncodeChar
  rw [if_neg low]
  split
  · refine ⟨_, List.mem_cons_self, ?_⟩
    rw [UInt8.toNat_ofNat']
    omega
  · split
    · refine ⟨_, List.mem_cons_self, ?_⟩
      rw [UInt8.toNat_ofNat']
      omega
    · refine ⟨_, List.mem_cons_self, ?_⟩
      rw [UInt8.toNat_ofNat']
      omega

theorem bytes_of_ascii {s : String} (ascii : ∀ c ∈ s.toList, c.toNat < 128) :
    bytes s = s.toList.map fun c => UInt8.ofNat c.toNat := by
  unfold bytes
  revert ascii
  induction s.toList with
  | nil => exact fun _ => rfl
  | cons c rest ih =>
      intro ascii
      rw [List.forall_mem_cons] at ascii
      rw [List.flatMap_cons, utf8EncodeChar_of_ascii ascii.1, ih ascii.2]
      rfl

theorem ascii_of_bytes {s : String} (low : ∀ b ∈ bytes s, b.toNat < 128) :
    ∀ c ∈ s.toList, c.toNat < 128 := by
  intro c member
  apply Nat.lt_of_not_le
  intro high
  obtain ⟨b, own, above⟩ := exists_mem_utf8EncodeChar high
  exact absurd (low b (List.mem_flatMap.2 ⟨c, member, own⟩)) (Nat.not_lt.2 above)

theorem toByteArray_eq (s : String) : s.toByteArray = ⟨(bytes s).toArray⟩ := by
  have whole : s.toByteArray = (bytes s).toByteArray := by
    conv => lhs; rw [← String.ofList_toList (s := s)]
    rfl
  rw [whole]
  apply ByteArray.ext
  simp

theorem ofBytes?_bytes (s : String) : ofBytes? (bytes s) = some s := by
  unfold ofBytes?
  rw [← toByteArray_eq, String.fromUTF8?, dif_pos s.isValidUTF8]
  rfl

end SecureHeaders.Text
