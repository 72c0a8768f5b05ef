/-!
Names of header fields. A name is a token of at most 65535 characters and is kept in lower case,
so that two spellings of one name are equal. Main statements: `ofText?_eq_some_iff` and
`ofText?_text`.
-/

namespace SecureHeaders.Header

/-- Code points of the marks that a token may hold beside ASCII letters and digits. -/
def tokenMarks : List Nat :=
  [0x21, 0x23, 0x24, 0x25, 0x26, 0x27, 0x2A, 0x2B, 0x2D, 0x2E, 0x5E, 0x5F, 0x60, 0x7C, 0x7E]

def isTokenChar (c : Char) : Bool := c.isAlphanum || tokenMarks.contains c.toNat

def maxNameLength : Nat := 65535

/-- A token as it may be written: not empty, not too long, of token characters only. -/
def IsToken (s : String) : Prop :=
  s.toList ≠ [] ∧ s.toList.length ≤ maxNameLength ∧ s.toList.all isTokenChar = true

instance (s : String) : Decidable (IsToken s) := inferInstanceAs (Decidable (_ ∧ _ ∧ _))

/-- ASCII letters in lower case, all else as it is. -/
def lower (s : String) : String := String.ofList (s.toList.map Char.toLower)

/-- A token without upper-case letters. -/
def IsName (s : String) : Prop := IsToken s ∧ (s.toList.any Char.isUpper) = false

instance (s : String) : Decidable (IsName s) := inferInstanceAs (Decidable (_ ∧ _))

theorem toNat_lt_of_isTokenChar {c : Char} (h : isTokenChar c = true) : c.toNat < 128 := by
  have alpha : c.isAlpha = (c.isUpper || c.isLower) := rfl
  have upper : c.isUpper = decide (65 ≤ c.val ∧ c.val ≤ 90) := rfl
  have lower : c.isLower = (decide (97 ≤ c.val) && decide (c.val ≤ 122)) := rfl
  simp [isTokenChar, tokenMarks, Char.isAlphanum, alpha, upper, lower, Char.isDigit,
    UInt32.le_iff_toNat_le] at h
  simp only [Char.toNat] at *
  omega

theorem of_ascii {P : Char → Prop} (h : ∀ n < 128, P (Char.ofNat n)) {c : Char}
    (hc : c.toNat < 128) : P c := by
  have := h c.toNat hc
  rwa [Char.ofNat_toNat] at this

/-- What holds of the token characters of ASCII holds of all of them. -/
theorem of_isTokenChar {P : Char → Prop}
    (ascii : ∀ n < 128, isTokenChar (Char.ofNat n) = true → P (Char.ofNat n)) {c : Char}
    (token : isTokenChar c = true) : P c :=
  of_ascii (P := fun c => isTokenChar c = true → P c) ascii (toNat_lt_of_isTokenChar token) token

theorem isTokenChar_toLower {c : Char} (h : isTokenChar c = true) :
    isTokenChar c.toLower = true ∧ c.toLower.isUpper = false := by
  have key : ∀ n < 128, isTokenChar (Char.ofNat n) = true →
      isTokenChar (Char.ofNat n).toLower = true ∧ (Char.ofNat n).toLower.isUpper = false := by
    decide
  exact of_isTokenChar
    (P := fun c => isTokenChar c.toLower = true ∧ c.toLower.isUpper = false) key h

theorem toLower_of_isUpper_eq_false {c : Char} (h : c.isUpper = false) : c.toLower = c :=
  dif_neg (of_decide_eq_false h)

@[simp] theorem toList_lower (s : String) : (lower s).toList = s.toList.map Char.toLower := by
  simp [lower]

theorem IsToken.isName_lower {s : String} (h : IsToken s) : IsName (lower s) := by
  obtain ⟨h₁, h₂, h₃⟩ := h
  rw [List.all_eq_true] at h₃
  have length : (lower s).toList.length ≤ maxNameLength := by
    rw [toList_lower, List.length_map]
    exact h₂
  refine ⟨⟨by simpa using h₁, length, ?_⟩, ?_⟩
  · simpa using fun c hc => (isTokenChar_toLower (h₃ c hc)).1
  · rw [toList_lower, List.any_eq_false]
    intro d hd
    obtain ⟨c, hc, rfl⟩ := List.mem_map.1 hd
    exact Bool.eq_false_iff.1 (isTokenChar_toLower (h₃ c hc)).2

theorem IsName.lower_eq {s : String} (h : IsName s) : lower s = s := by
  have : s.toList.map Char.toLower = s.toList := by
    conv => rhs; rw [← List.map_id s.toList]
    refine List.map_congr_left fun c hc => toLower_of_isUpper_eq_false ?_
    exact Bool.eq_false_iff.2 (List.any_eq_false.1 h.2 c hc)
  simp [lower, this]

structure Name where
  text : String
  isName : IsName text
deriving DecidableEq

namespace Name

/-- The name that a token spells; no other text is a name. -/
def ofText? (s : String) : Option Name :=
  if h : IsToken s then some ⟨lower s, h.isName_lower⟩ else none

instance : ToString Name := ⟨Name.text⟩

@[ext] theorem ext {a b : Name} (h : a.text = b.text) : a = b := by
  cases a; cases b; simp_all

theorem ofText?_eq_some_iff {s : String} {n : Name} :
    ofText? s = some n ↔ IsToken s ∧ n.text = lower s := by
  unfold ofText?
  split
  · simp [*, Name.ext_iff, eq_comm]
  · simp [*]

theorem ofText?_eq_none_iff {s : String} : ofText? s = none ↔ ¬ IsToken s := by
  simp [ofText?]

@[simp] theorem ofText?_text (n : Name) : ofText? n.text = some n :=
  ofText?_eq_some_iff.2 ⟨n.isName.1, n.isName.lower_eq.symm⟩

end Name
end SecureHeaders.Header
