import Mathlib.Data.List.DropRight
import SecureHeaders.Proofs.HeaderReading
/-!
The grammar of headers, said of the bytes of a name and of its values, with the order in which
faults are looked for. `Header.ofText` comes to exactly what the grammar says, and a header that was
read is read again from its own name and values.
-/

namespace SecureHeaders

namespace Text

/-- Trimming leaves nothing of a text that is blank throughout, and of no other. -/
theorem trim_eq_nil_iff {s : String} : trim s.toList = [] ↔ isAllBlank s = true := by
  have right : trim s.toList = [] ↔ ∀ c ∈ s.toList.dropWhile isBlank, isBlank c = true :=
    List.rdropWhile_eq_nil_iff
  rw [right, ← List.dropWhile_eq_nil_iff, List.dropWhile_idempotent, List.dropWhile_eq_nil_iff,
    isAllBlank_iff]

end Text

namespace Header

/-- The bytes that a token may hold. -/
def tokenBytes : Text.Bytes :=
  Text.bytes ("!#$%&'*+-.^_`|~" ++ "0123456789" ++ "ABCDEFGHIJKLMNOPQRSTUVWXYZ" ++
    "abcdefghijklmnopqrstuvwxyz")

/-- One to 65535 bytes, all of them those of tokens. -/
def SpellsName (s : String) : Prop :=
  1 ≤ (Text.bytes s).length ∧ (Text.bytes s).length ≤ 65535 ∧ ∀ b ∈ Text.bytes s, b ∈ tokenBytes

/-- The tab is the only control that may stand in a value. -/
def SpellsValue (s : String) : Prop :=
  ∀ b ∈ Text.bytes s, b < 0x20 ∨ b = 0x7F → b = 0x09

theorem mem_tokenBytes_iff {c : Char} (ascii : c.toNat < 128) :
    UInt8.ofNat c.toNat ∈ tokenBytes ↔ isTokenChar c = true := by
  have all : ∀ n < 128,
      (UInt8.ofNat (Char.ofNat n).toNat ∈ tokenBytes ↔ isTokenChar (Char.ofNat n) = true) := by
    decide +kernel
  exact of_ascii (P := fun c => UInt8.ofNat c.toNat ∈ tokenBytes ↔ isTokenChar c = true) all ascii

theorem toNat_lt_of_mem_tokenBytes {b : UInt8} (token : b ∈ tokenBytes) : b.toNat < 128 := by
  have all : tokenBytes.all (fun b => b.toNat < 128) = true := by decide +kernel
  exact of_decide_eq_true (List.all_eq_true.1 all b token)

theorem SpellsName.ascii {s : String} (spelled : SpellsName s) :
    ∀ c ∈ s.toList, c.toNat < 128 :=
  Text.ascii_of_bytes fun b member => toNat_lt_of_mem_tokenBytes (spelled.2.2 b member)

theorem isToken_iff_spellsName_of_ascii {s : String} (ascii : ∀ c ∈ s.toList, c.toNat < 128) :
    IsToken s ↔ SpellsName s := by
  unfold IsToken SpellsName
  rw [Text.bytes_of_ascii ascii, List.length_map, List.forall_mem_map, ← List.length_pos_iff,
    List.all_eq_true]
  apply and_congr_right fun _ => and_congr_right fun _ => ?_
  exact forall₂_congr fun c member => (mem_tokenBytes_iff (ascii c member)).symm

/-- Tokens are ASCII, so that the rule for characters is one for bytes. -/
theorem isToken_iff_spellsName {s : String} : IsToken s ↔ SpellsName s := by
  constructor
  · intro token
    have ascii : ∀ c ∈ s.toList, c.toNat < 128 := fun c member =>
      toNat_lt_of_isTokenChar (List.all_eq_true.1 token.2.2 c member)
    exact (isToken_iff_spellsName_of_ascii ascii).1 token
  · intro spelled
    exact (isToken_iff_spellsName_of_ascii spelled.ascii).2 spelled

theorem isValueByte_iff {b : UInt8} : isValueByte b = true ↔ (b < 0x20 ∨ b = 0x7F → b = 0x09) := by
  simp only [isValueByte, Bool.or_eq_true, Bool.and_eq_true, beq_iff_eq, bne_iff_ne,
    decide_eq_true_eq, ← UInt8.not_lt]
  grind

theorem spellsValue_iff {s : String} :
    SpellsValue s ↔ (Text.bytes s).all isValueByte = true := by
  rw [List.all_eq_true]
  exact forall₂_congr fun b _ => isValueByte_iff.symm

theorem spellsValue_of_ofText? {s : String} {v : Value} (read : Value.ofText? s = some v) :
    SpellsValue s := by
  rw [spellsValue_iff, ← Value.ofText?_eq_some_iff.1 read]
  exact v.isValid

theorem not_spellsValue_of_ofText? {s : String} (read : Value.ofText? s = none) :
    ¬ SpellsValue s := by
  rw [spellsValue_iff, Value.ofText?_eq_none_iff.1 read]
  exact Bool.false_ne_true

/-- Reading values stops at the first that is none. -/
theorem readValues_eq_error_iff {values : List String} {v : String} :
    readValues values = .error v ↔
      ∃ before after, values = before ++ v :: after ∧ (∀ u ∈ before, SpellsValue u) ∧
        ¬ SpellsValue v := by
  induction values with
  | nil => simp [readValues]
  | cons s rest ih =>
      cases read : Value.ofText? s with
      | none =>
          have bad := not_spellsValue_of_ofText? read
          simp only [readValues, read, Except.error.injEq]
          constructor
          · rintro rfl
            exact ⟨[], rest, rfl, List.forall_mem_nil _, bad⟩
          · rintro ⟨before, after, split, good, -⟩
            cases before with
            | nil => exact (List.cons.inj split).1
            | cons u before =>
                cases split
                exact absurd (good s List.mem_cons_self) bad
      | some w =>
          have good := spellsValue_of_ofText? read
          have rest_read : readValues (s :: rest) = .error v ↔ readValues rest = .error v := by
            simp only [readValues, read]
            cases readValues rest <;> simp [Except.map]
          rw [rest_read, ih]
          constructor
          · rintro ⟨before, after, rfl, earlier, bad⟩
            refine ⟨s :: before, after, rfl, ?_, bad⟩
            exact List.forall_mem_cons.2 ⟨good, earlier⟩
          · rintro ⟨before, after, split, earlier, bad⟩
            cases before with
            | nil =>
                cases split
                exact absurd good bad
            | cons u before =>
                cases split
                exact ⟨before, after, rfl, (List.forall_mem_cons.1 earlier).2, bad⟩

theorem spellsValue_of_readValues {texts : List String} {values : List Value}
    (read : readValues texts = .ok values) : ∀ s ∈ texts, SpellsValue s := by
  intro s member
  have bytes : Text.bytes s ∈ values.map Value.bytes := by
    rw [readValues_eq_ok_iff.1 read]
    exact List.mem_map_of_mem member
  obtain ⟨v, -, same⟩ := List.mem_map.1 bytes
  exact spellsValue_of_ofText? (Value.ofText?_eq_some_iff.2 same)

/-- What a name and values come to. The faults exclude each other: the name is looked at before the
values, and the values before their number. -/
inductive Reads (name : String) (values : List String) : Except HeaderError Header → Prop
  | emptyName : Text.trim name.toList = [] → Reads name values (.error .emptyName)
  | invalidName : Text.trim name.toList ≠ [] → ¬ SpellsName name →
      Reads name values (.error (.invalidName name))
  | invalidValue {n : Name} {before after : List String} {v : String} : SpellsName name →
      n.text = lower name → values = before ++ v :: after → (∀ u ∈ before, SpellsValue u) →
      ¬ SpellsValue v → Reads name values (.error (.invalidValue n v))
  | noValues {n : Name} : SpellsName name → n.text = lower name → values = [] →
      Reads name values (.error (.noValues n))
  | header {h : Header} : SpellsName name → h.name.text = lower name → values ≠ [] →
      (∀ v ∈ values, SpellsValue v) → h.values.map Value.bytes = values.map Text.bytes →
      Reads name values (.ok h)

theorem Reads.ofText_eq {name : String} {values : List String} {r : Except HeaderError Header}
    (reads : Reads name values r) : ofText name values = r := by
  cases reads with
  | emptyName blank => exact if_pos (Text.trim_eq_nil_iff.1 blank)
  | invalidName filled bad =>
      have named := Name.ofText?_eq_none_iff.2 fun token => bad (isToken_iff_spellsName.1 token)
      rw [ofText, if_neg fun blank => filled (Text.trim_eq_nil_iff.2 blank), named]
  | invalidValue spelled lowered split earlier bad =>
      have token := isToken_iff_spellsName.2 spelled
      have stopped := readValues_eq_error_iff.2 ⟨_, _, split, earlier, bad⟩
      rw [ofText, token.isAllBlank_eq_false, Name.ofText?_eq_some_iff.2 ⟨token, lowered⟩, stopped]
      rfl
  | noValues spelled lowered none =>
      have token := isToken_iff_spellsName.2 spelled
      rw [ofText, token.isAllBlank_eq_false, Name.ofText?_eq_some_iff.2 ⟨token, lowered⟩, none]
      rfl
  | header spelled lowered _ _ bytes =>
      exact ofText_eq_ok_iff.2 ⟨isToken_iff_spellsName.2 spelled, lowered, bytes⟩

theorem reads_ofText (name : String) (values : List String) :
    Reads name values (ofText name values) := by
  -- The branches of reading, from the outermost on, are the constructors in their order.
  unfold ofText
  split
  · rename_i blank
    exact .emptyName (Text.trim_eq_nil_iff.2 blank)
  · rename_i filled
    split
    · rename_i unnamed
      refine .invalidName (fun blank => filled (Text.trim_eq_nil_iff.1 blank)) ?_
      intro spelled
      exact Name.ofText?_eq_none_iff.1 unnamed (isToken_iff_spellsName.2 spelled)
    · rename_i n named
      obtain ⟨token, lowered⟩ := Name.ofText?_eq_some_iff.1 named
      have spelled := isToken_iff_spellsName.1 token
      split
      · rename_i stopped
        obtain ⟨before, after, split, earlier, bad⟩ := readValues_eq_error_iff.1 stopped
        exact .invalidValue spelled lowered split earlier bad
      · rename_i read
        have bytes := readValues_eq_ok_iff.1 read
        exact .noValues spelled lowered (List.map_eq_nil_iff.1 bytes.symm)
      · rename_i v vs read
        have bytes := readValues_eq_ok_iff.1 read
        refine .header spelled lowered ?_ (spellsValue_of_readValues read) bytes
        rintro rfl
        cases bytes

/-- Reading comes to what the grammar says and to nothing else. A header keeps the bytes of its
values, and makes itself again. -/
theorem ofText_eq_iff_reads (name : String) (values : List String) :
    (∀ r, ofText name values = r ↔ Reads name values r) ∧
    ∀ h, ofText name values = .ok h →
      h.values.map (fun v => Text.ofBytes? v.bytes) = values.map some ∧
        ofText h.name.text values = .ok h := by
  refine ⟨?reads, ?again⟩
  case reads =>
    intro r
    refine ⟨?_, Reads.ofText_eq⟩
    rintro rfl
    exact reads_ofText name values
  case again =>
    intro h read
    obtain ⟨-, -, bytes⟩ := ofText_eq_ok_iff.1 read
    constructor
    · have plain : Text.ofBytes? ∘ Text.bytes = some := funext Text.ofBytes?_bytes
      rw [← plain, ← List.map_map, ← bytes, List.map_map]
      rfl
    · exact ofText_eq_ok_iff.2 ⟨h.name.isName.1, h.name.isName.lower_eq.symm, bytes⟩

end Header
end SecureHeaders
