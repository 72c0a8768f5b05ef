import Mathlib.Data.Set.List
import SecureHeaders.Proofs.ConfigMeaning
import SecureHeaders.Proofs.HeaderGrammar
/-!
The headers that can be obtained, and what their writing reports. Headers are read from texts or
made of policies, and pass through writers, declarations and chains; those that come out are exactly
the well-formed ones. So every header has a value, and a writer reports a header where the message
has changed, and nowhere else.
-/

namespace SecureHeaders

open Header (Fields Name Value)

namespace Header

def isCapital (b : UInt8) : Bool := 0x41 ≤ b && b ≤ 0x5A

/-- What a header is made of, said of bytes: a name without capitals, and one or more values, each
of them a text without controls other than the tab. -/
structure WellFormed (name : String) (values : List Text.Bytes) : Prop where
  spelled : SpellsName name
  lowered : ∀ b ∈ Text.bytes name, isCapital b = false
  filled : values ≠ []
  texts : ∀ v ∈ values, ∃ s, SpellsValue s ∧ Text.bytes s = v

/-- The name and the values of the header are well formed. -/
def Sound (h : Header) : Prop := WellFormed h.name.text (h.values.map Value.bytes)

theorem isCapital_of_ascii {c : Char} (ascii : c.toNat < 128) :
    isCapital (UInt8.ofNat c.toNat) = c.isUpper := by
  have all : ∀ n < 128,
      isCapital (UInt8.ofNat (Char.ofNat n).toNat) = (Char.ofNat n).isUpper := by decide
  exact of_ascii (P := fun c => isCapital (UInt8.ofNat c.toNat) = c.isUpper) all ascii

/-- Tokens are ASCII, so that lower case can be told from the bytes. -/
theorem isName_iff {s : String} :
    IsName s ↔ SpellsName s ∧ ∀ b ∈ Text.bytes s, isCapital b = false := by
  rw [IsName, isToken_iff_spellsName]
  apply and_congr_right
  intro spelled
  have ascii := spelled.ascii
  rw [Text.bytes_of_ascii ascii, List.forall_mem_map, List.any_eq_false]
  refine forall₂_congr fun c member => ?_
  rw [isCapital_of_ascii (ascii c member), Bool.not_eq_true]

/-- Beyond what every header is by its type, its values are texts. -/
theorem sound_of_texts {h : Header} (texts : ∀ v ∈ h.values, ∃ s, Text.bytes s = v.bytes) :
    h.Sound := by
  obtain ⟨spelled, lowered⟩ := isName_iff.1 h.name.isName
  refine ⟨spelled, lowered, fun none => h.hasValue (List.map_eq_nil_iff.1 none), ?_⟩
  rw [List.forall_mem_map]
  intro v member
  obtain ⟨s, written⟩ := texts v member
  exact ⟨s, spellsValue_of_ofText? (Value.ofText?_eq_some_iff.2 written.symm), written⟩

theorem sound_of_ofText {name : String} {values : List String} {h : Header}
    (read : ofText name values = .ok h) : h.Sound := by
  obtain ⟨-, -, bytes⟩ := ofText_eq_ok_iff.1 read
  apply sound_of_texts
  intro v member
  have own : v.bytes ∈ values.map Text.bytes := bytes ▸ List.mem_map_of_mem member
  obtain ⟨s, -, written⟩ := List.mem_map.1 own
  exact ⟨s, written⟩

theorem sound_of_policy {P : Type} [HeaderPolicy P] {policy : Option P} {h : Header}
    (computed : HeaderPolicy.compute policy = some h) : h.Sound := by
  obtain ⟨p, -, rfl⟩ := Option.map_eq_some_iff.1 computed
  apply sound_of_texts
  intro v member
  rw [List.mem_singleton.1 member]
  exact ⟨HeaderPolicy.wire p, rfl⟩

/-- What is well formed is read back from its own name and texts. -/
theorem WellFormed.exists_ofText {name : String} {values : List Text.Bytes}
    (formed : WellFormed name values) : ∃ texts h, ofText name texts = .ok h ∧
      h.name.text = name ∧ h.values.map Value.bytes = values := by
  have isName : IsName name := isName_iff.2 ⟨formed.spelled, formed.lowered⟩
  -- The same bytes come from a list of texts, which is read, and from the values read from it.
  have written : values ∈ Set.range (List.map Text.bytes) := by
    rw [Set.range_list_map]
    intro v member
    obtain ⟨s, -, written⟩ := formed.texts v member
    exact ⟨s, written⟩
  have valid : values ∈ Set.range (List.map Value.bytes) := by
    rw [Set.range_list_map]
    intro v member
    obtain ⟨s, spelled, rfl⟩ := formed.texts v member
    exact ⟨⟨Text.bytes s, spellsValue_iff.1 spelled⟩, rfl⟩
  obtain ⟨texts, rfl⟩ := written
  obtain ⟨vs, same⟩ := valid
  have filled : vs ≠ [] := by
    rintro rfl
    exact formed.filled same.symm
  refine ⟨texts, ⟨⟨name, isName⟩, vs, filled⟩, ?_, rfl, same⟩
  exact ofText_eq_ok_iff.2 ⟨isName.1, isName.lower_eq.symm, same⟩

namespace Fields

theorem remove_of_absent {m : Fields} {n : Name} (absent : m.contains n = false) :
    m.remove n = m := by
  apply Fields.ext
  apply List.filter_eq_self.2
  intro l member
  rw [contains, List.any_eq_false] at absent
  simpa using absent l member

theorem remove_appendHeader (m : Fields) (h : Header) :
    (m.appendHeader h).remove h.name = m.remove h.name := by
  apply Fields.ext
  simp [remove, appendHeader]

end Fields
end Header

/-- What a writer reports is the header that it computes. -/
theorem Writer.compute_of_reported {w : Writer} {m : Fields} {h : Header}
    (reported : (w.write m).2 = some h) : w.compute = some h := by
  cases computed : w.compute with
  | none =>
      rw [write_of_compute_eq_none computed] at reported
      cases reported
  | some other =>
      rw [write_snd computed] at reported
      split at reported
      · cases reported
      · exact reported

/-- What a program gets from operations and may give back to others. -/
inductive Item where
  | header (h : Header)
  | writer (w : Writer)
  | chain (c : Chain)
  | declaration (d : Declaration)

/-- The items that can be obtained, with one constructor for each operation. Messages are no items,
as any message can be written to. -/
inductive Obtained : Item → Prop
  | ofText {name : String} {values : List String} {h : Header} :
      Header.ofText name values = .ok h → Obtained (.header h)
  | policy {P : Type} [HeaderPolicy P] {policy : Option P} {h : Header} :
      HeaderPolicy.compute policy = some h → Obtained (.header h)
  | computed {w : Writer} {h : Header} :
      Obtained (.writer w) → w.compute = some h → Obtained (.header h)
  | written {w : Writer} {m : Fields} {h : Header} :
      Obtained (.writer w) → (w.write m).2 = some h → Obtained (.header h)
  | listed {c : Chain} {h : Header} :
      Obtained (.chain c) → h ∈ c.headers → Obtained (.header h)
  | embedder (policy : Option EmbedderPolicy) : Obtained (.writer (.embedder policy))
  | referrer (policy : Option ReferrerPolicy) : Obtained (.writer (.referrer policy))
  | fixed {h : Header} : Obtained (.header h) → Obtained (.writer (.fixed h))
  | member {c : Chain} {w : Writer} :
      Obtained (.chain c) → w ∈ c.writers → Obtained (.writer w)
  | chain {ws : List Writer} :
      (∀ w ∈ ws, Obtained (.writer w)) → Obtained (.chain ⟨ws⟩)
  | undeclared : Obtained (.declaration {})
  | declared {d : Declaration} {s : Declaration.Step} :
      Obtained (.declaration d) → (∀ h, s = .fixed h → Obtained (.header h)) →
        Obtained (.declaration (d.step s))
  | configured {c : Config.Headers} {d : Declaration} :
      c.declare = .ok d → Obtained (.declaration d)
  | built {d : Declaration} : Obtained (.declaration d) → Obtained (.chain d.build)
  | served {c : Config} {s : Http.Server} :
      Http.Server.ofConfig c = .ok s → Obtained (.chain s.chain)

/-- The headers that an item holds or comes to. A declared policy is no header before the chain is
built. -/
def Item.headers : Item → List Header
  | .header h => [h]
  | .writer w => w.compute.toList
  | .chain c => c.headers
  | .declaration d => d.fixed

/-- Every header that the item holds or comes to is well formed. -/
def Item.Sound (x : Item) : Prop := ∀ h ∈ x.headers, h.Sound

namespace Item

theorem sound_header {h : Header} (sound : h.Sound) : (header h).Sound := by
  intro other member
  rw [List.mem_singleton.1 member]
  exact sound

theorem sound_writer_iff {w : Writer} :
    (writer w).Sound ↔ ∀ h, w.compute = some h → h.Sound := by
  simp only [Sound, headers, Option.mem_toList]

theorem sound_chain_iff {c : Chain} :
    (chain c).Sound ↔ ∀ w ∈ c.writers, (writer w).Sound := by
  simp only [sound_writer_iff]
  constructor
  · intro sound w own h computed
    exact sound h (List.mem_filterMap.2 ⟨w, own, computed⟩)
  · intro sound h listed
    obtain ⟨w, own, computed⟩ := List.mem_filterMap.1 listed
    exact sound w own h computed

/-- A step adds the header that it is given, if it is given one, and no other. -/
theorem sound_step {d : Declaration} (sound : (declaration d).Sound) {s : Declaration.Step}
    (given : ∀ h, s = .fixed h → h.Sound) : (declaration (d.step s)).Sound := by
  cases s with
  | embedder configure => exact sound
  | referrer configure => exact sound
  | disable => exact sound
  | fixed header =>
      intro h member
      rcases List.mem_append.1 member with earlier | last
      · exact sound h earlier
      · rw [List.mem_singleton.1 last]
        exact given header rfl

theorem sound_slotHeader {P : Type} [HeaderPolicy P] {slot : Option (PolicySlot P)} {h : Header}
    (member : h ∈ (Declaration.slotHeader slot).toList) : h.Sound := by
  obtain ⟨s, -, computed⟩ := Option.bind_eq_some_iff.1 (Option.mem_toList.1 member)
  exact Header.sound_of_policy computed

theorem sound_build {d : Declaration} (sound : (declaration d).Sound) :
    (chain d.build).Sound := by
  intro h listed
  rw [headers, Declaration.headers_build] at listed
  split at listed
  · cases listed
  · rcases List.mem_append.1 listed with policies | fixed
    · rcases List.mem_append.1 policies with embedder | referrer
      · exact sound_slotHeader embedder
      · exact sound_slotHeader referrer
    · exact sound h fixed

theorem sound_declaration_of_read {c : Config.Headers} {fixed : List Header}
    (read : Config.readCustomHeaders c.custom = .ok fixed) :
    (declaration (c.declaration fixed)).Sound := by
  intro h member
  obtain ⟨e, -, spelled⟩ := Config.custom_of_mem read member
  exact Header.sound_of_ofText spelled

theorem sound_of_declare {c : Config.Headers} {d : Declaration} (declared : c.declare = .ok d) :
    (declaration d).Sound := by
  cases read : Config.readCustomHeaders c.custom with
  | error e =>
      rw [Config.Headers.declare_eq_error_iff.2 read] at declared
      cases declared
  | ok fixed =>
      rw [Config.Headers.declare_of_read read] at declared
      cases declared
      exact sound_declaration_of_read read

theorem sound_of_ofConfig {c : Config} {s : Http.Server}
    (made : Http.Server.ofConfig c = .ok s) : (chain s.chain).Sound := by
  obtain ⟨fixed, checked, same⟩ :=
    Http.Server.ofConfig_of_faults_eq_nil (Http.Server.faults_of_ofConfig made)
  rw [same] at made
  cases made
  exact sound_build (sound_declaration_of_read checked.read)

end Item

/-- The induction is on how the item was obtained: what an operation gives is well formed if what
it was given is. -/
theorem Obtained.sound {x : Item} (obtained : Obtained x) : x.Sound := by
  induction obtained with
  | ofText read => exact Item.sound_header (Header.sound_of_ofText read)
  | policy computed => exact Item.sound_header (Header.sound_of_policy computed)
  | computed _ computed ih => exact Item.sound_header (Item.sound_writer_iff.1 ih _ computed)
  | written _ reported ih =>
      exact Item.sound_header (Item.sound_writer_iff.1 ih _ (Writer.compute_of_reported reported))
  | listed _ member ih => exact Item.sound_header (ih _ member)
  | embedder policy => exact Item.sound_writer_iff.2 fun _ => Header.sound_of_policy
  | referrer policy => exact Item.sound_writer_iff.2 fun _ => Header.sound_of_policy
  | fixed _ ih => exact ih
  | member _ own ih => exact Item.sound_chain_iff.1 ih _ own
  | chain _ ih => exact Item.sound_chain_iff.2 ih
  | undeclared => exact List.forall_mem_nil _
  | declared _ _ ih given =>
      exact Item.sound_step ih fun h fixed => given h fixed h (List.mem_singleton_self h)
  | configured declared => exact Item.sound_of_declare declared
  | built _ ih => exact Item.sound_build ih
  | served made => exact Item.sound_of_ofConfig made

namespace Writer

/-- A report that says what has happened: `before` and `after` are the message around a call of the
writer, `report` is what the call returns. -/
structure Honest (w : Writer) (before after : Fields) (report : Option Header) : Prop where
  told : report.isSome = true ↔ ∃ n, after.values n ≠ before.values n
  written : ∀ h, report = some h → w.compute = some h ∧ before.contains h.name = false ∧
    after.values h.name = h.values ∧ after.remove h.name = before
  kept : report = none → after = before ∧
    (w.compute = none ∨ ∃ h, w.compute = some h ∧ before.contains h.name = true)

theorem honest_of_idle {w : Writer} {m : Fields}
    (idle : w.compute = none ∨ ∃ h, w.compute = some h ∧ m.contains h.name = true) :
    Honest w m m none := by
  constructor
  case told => simp
  case written => exact fun h reported => nomatch reported
  case kept => exact fun _ => ⟨rfl, idle⟩

/-- That the header has a value is what makes the report true: without one, it would be reported
and the message would be as before. -/
theorem honest_of_absent {w : Writer} {h : Header} (computed : w.compute = some h) (sound : h.Sound)
    {m : Fields} (absent : m.contains h.name = false) :
    Honest w m (m.appendHeader h) (some h) := by
  have free : m.values h.name = [] := Fields.contains_eq_false_iff.1 absent
  have filled : h.values ≠ [] := fun none => sound.filled (List.map_eq_nil_iff.2 none)
  have own : (m.appendHeader h).values h.name = h.values := by
    rw [Fields.values_appendHeader, if_pos rfl, free, List.nil_append]
  constructor
  case told =>
    refine ⟨fun _ => ⟨h.name, ?_⟩, fun _ => rfl⟩
    rw [own, free]
    exact filled
  case written =>
    rintro other reported
    cases reported
    refine ⟨computed, absent, own, ?_⟩
    rw [Fields.remove_appendHeader, Fields.remove_of_absent absent]
  case kept => exact fun unreported => nomatch unreported

theorem write_honest {w : Writer} (sound : ∀ h, w.compute = some h → h.Sound) (m : Fields) :
    Honest w m (w.write m).1 (w.write m).2 := by
  cases computed : w.compute with
  | none =>
      rw [write_of_compute_eq_none computed]
      exact honest_of_idle (Or.inl computed)
  | some h =>
      cases present : m.contains h.name with
      | true =>
          rw [write_of_contains computed present]
          exact honest_of_idle (Or.inr ⟨h, computed, present⟩)
      | false =>
          rw [write_of_contains_eq_false computed present]
          exact honest_of_absent computed (sound h computed) present

end Writer

/-- The headers that can be obtained are exactly the well-formed ones, and every report of a writer
of a chain that can be obtained is honest, whatever message it writes to. -/
theorem obtained_wellFormed_and_honest :
    (∀ name values,
      (∃ h, Obtained (.header h) ∧ h.name.text = name ∧ h.values.map Value.bytes = values) ↔
        Header.WellFormed name values) ∧
    ∀ c, Obtained (.chain c) → ∀ w ∈ c.writers, ∀ m,
      Writer.Honest w m (w.write m).1 (w.write m).2 := by
  refine ⟨?headers, ?reports⟩
  case headers =>
    intro name values
    constructor
    · rintro ⟨h, obtained, rfl, rfl⟩
      exact obtained.sound h (List.mem_singleton_self h)
    · intro formed
      obtain ⟨texts, h, read, named, same⟩ := formed.exists_ofText
      exact ⟨h, .ofText read, named, same⟩
  case reports =>
    intro c obtained w own m
    exact Writer.write_honest (Item.sound_writer_iff.1 (obtained.member own).sound) m

theorem obtained_wellFormed_and_honest_of_three_writers :
    let note : Header :=
      ⟨⟨"x-note", by decide⟩, [⟨Text.bytes "é", by decide⟩, ⟨[], rfl⟩], by decide⟩
    let d := (({} : Declaration).step (.embedder id)).step (.referrer id)
    let c := (d.step (.fixed note)).build
    let m := Fields.empty.append ReferrerPolicy.name ⟨Text.bytes "origin", by decide⟩
    Header.ofText "X-Note" ["é", ""] = .ok note ∧
      Header.WellFormed "x-note" [Text.bytes "é", []] ∧
      Obtained (.chain c) ∧ c.writers = [.embedder none, .referrer none, .fixed note] ∧
      Writer.Honest (.embedder none) m m none ∧ Writer.Honest (.referrer none) m m none ∧
      Writer.Honest (.fixed note) m (m.appendHeader note) (some note) := by
  intro note d c m
  have read : Header.ofText "X-Note" ["é", ""] = .ok note :=
    Header.ofText_eq_ok_iff.2 (by decide)
  have plain : Obtained (.declaration d) :=
    .declared (.declared .undeclared fun _ fixed => nomatch fixed) fun _ fixed => nomatch fixed
  have obtained : Obtained (.chain c) := by
    refine .built (.declared plain ?_)
    rintro h fixed
    cases fixed
    exact .ofText read
  have idle : ∀ w ∈ [Writer.embedder none, .referrer none], w.write m = (m, none) := by decide
  have writes : (Writer.fixed note).write m = (m.appendHeader note, some note) := by decide
  obtain ⟨headers, reports⟩ := obtained_wellFormed_and_honest
  refine ⟨read, (headers _ _).1 ⟨note, .ofText read, rfl, rfl⟩, obtained, rfl, ?_, ?_, ?_⟩
  · have honest := reports c obtained (.embedder none) (by decide) m
    rwa [idle _ (by decide)] at honest
  · have honest := reports c obtained (.referrer none) (by decide) m
    rwa [idle _ (by decide)] at honest
  · have honest := reports c obtained (.fixed note) (by decide) m
    rwa [writes] at honest

end SecureHeaders
