import Mathlib.Data.List.Forall2
import SecureHeaders.Proofs.ListedHeaders
import SecureHeaders.Proofs.OutputLines
import SecureHeaders.Proofs.PrintedJson
/-!
Headers listed as JSON. The listing has an entry for each header, in order, with its name and those
of its values that are text; so it shows the headers as they are where every value is text, and
loses values elsewhere.
-/

namespace SecureHeaders

open Config (Content)
open Header (Value)
open Text (isPlain)

namespace Header

theorem isVisibleByte_iff {b : UInt8} : isVisibleByte b = true ↔ Text.PlainByte b := by
  simp only [isVisibleByte, Text.PlainByte, Bool.or_eq_true, Bool.and_eq_true, beq_iff_eq,
    decide_eq_true_eq, UInt8.le_iff_toNat_le, UInt8.lt_iff_toNat_lt, ← UInt8.toNat_inj]
  exact or_congr_right (and_congr_right fun _ => Nat.lt_succ_iff)

/-- What a text is written as is text again where it is plain, and only there. -/
theorem all_isVisibleByte_bytes {s : String} :
    (Text.bytes s).all isVisibleByte = true ↔ s.toList.all isPlain = true := by
  rw [List.all_eq_true, List.all_eq_true]
  constructor
  · intro visible
    have low : ∀ b ∈ Text.bytes s, b.toNat < 128 := by
      intro b member
      have range := isVisibleByte_iff.1 (visible b member)
      unfold Text.PlainByte at range
      omega
    have ascii := Text.ascii_of_bytes low
    intro c member
    have own : UInt8.ofNat c.toNat ∈ Text.bytes s := by
      rw [Text.bytes_of_ascii ascii]
      exact List.mem_map_of_mem member
    have code : (UInt8.ofNat c.toNat).toNat = c.toNat := by
      have below := ascii c member
      rw [UInt8.toNat_ofNat']
      omega
    have plain := isPlain_of_isVisibleByte (visible _ own)
    rwa [code, Char.ofNat_toNat] at plain
  · intro plain b member
    exact isVisibleByte_iff.2 (Text.plainByte_of_mem_bytes plain member)

end Header

namespace Cli

/-- What an entry of a listing has to be in order to show a header: it has the name, and as many
values, with each that is text in its place. -/
structure Shows (entry : Data) (h : Header) : Prop where
  name : entry.get? "name" = some (.text h.name.text)
  values : ∃ shown, entry.get? "values" = some (.list shown) ∧
    List.Forall₂ (fun d v => ∀ s, Value.text? v = some s → d = .text s) shown h.values

/-- What an entry shows of any header: its name, and those of its values that are text, in order. -/
structure ShowsTexts (entry : Data) (h : Header) : Prop where
  name : entry.get? "name" = some (.text h.name.text)
  values : entry.get? "values" = some (.list ((h.values.filterMap Value.text?).map Data.text))

theorem get?_values_headerData (h : Header) :
    (headerData h).get? "values" =
      some (.list (h.values.filterMap fun v => v.text?.map Data.text)) := rfl

theorem showsTexts_headerData (h : Header) : ShowsTexts (headerData h) h := by
  refine ⟨rfl, ?_⟩
  rw [get?_values_headerData, List.map_filterMap]

theorem forall₂_filterMap {α β : Type} {f : α → Option β} {l : List α}
    (kept : ∀ a ∈ l, (f a).isSome = true) :
    List.Forall₂ (fun b a => f a = some b) (l.filterMap f) l := by
  induction l with
  | nil => exact List.Forall₂.nil
  | cons a l ih =>
      rw [List.forall_mem_cons] at kept
      obtain ⟨b, own⟩ := Option.isSome_iff_exists.1 kept.1
      rw [List.filterMap_cons_some own]
      exact List.Forall₂.cons own (ih kept.2)

/-- An entry leaves out each value that is not text, and so shows its header if there is none. -/
theorem shows_headerData_iff {h : Header} :
    Shows (headerData h) h ↔ ∀ v ∈ h.values, v.text?.isSome = true := by
  constructor
  · rintro ⟨-, shown, listed, places⟩ v member
    rw [get?_values_headerData, Option.some.injEq, Data.list.injEq] at listed
    -- A value that is left out makes the list of values shorter.
    have whole := places.length_eq
    rw [← listed, List.filterMap_length_eq_length] at whole
    simpa only [Option.isSome_map] using whole v member
  · intro texts
    refine ⟨rfl, _, get?_values_headerData h, ?_⟩
    have kept : ∀ v ∈ h.values, (v.text?.map Data.text).isSome = true := by
      simpa only [Option.isSome_map] using texts
    refine (forall₂_filterMap kept).imp ?_
    intro d v own s text
    rw [text, Option.map_some, Option.some.injEq] at own
    exact own.symm

theorem textual_headerData (h : Header) (depth : Nat) :
    Json.Textual (depth + 2) (headerData h) := by
  have ascending : "name" < "values" := by decide
  have values : Json.Textual (depth + 1)
      (.list (h.values.filterMap fun v => v.text?.map Data.text)) := by
    refine .list ?_
    intro item member
    obtain ⟨v, -, text⟩ := List.mem_filterMap.1 member
    obtain ⟨s, -, rfl⟩ := Option.map_eq_some_iff.1 text
    exact .text depth s
  refine .map (List.pairwise_pair.2 ascending) ?_
  exact List.forall_mem_cons.2 ⟨.text _ _, List.forall_mem_singleton.2 values⟩

/-- The printed listing reads as the entries that it was printed from. -/
theorem read?_listing (hs : List Header) :
    Json.read? (listing true hs) = some (.list (hs.map headerData)) := by
  have textual : Json.Textual (126 + 1) (.list (hs.map headerData)) := by
    refine .list ?_
    intro entry member
    obtain ⟨h, -, rfl⟩ := List.mem_map.1 member
    exact textual_headerData h 124
  exact Json.read?_print textual rfl

theorem forall₂_shows_iff {hs : List Header} :
    List.Forall₂ Shows (hs.map headerData) hs ↔
      ∀ h ∈ hs, ∀ v ∈ h.values, v.text?.isSome = true := by
  rw [List.forall₂_map_left_iff, List.forall₂_same]
  simp only [shows_headerData_iff]

end Cli

namespace Config

theorem isSome_text?_iff_of_read {e : CustomHeader} {h : Header} (read : e.header = .ok h) :
    (∀ v ∈ h.values, v.text?.isSome = true) ↔ ∀ s ∈ e.values, s.toList.all isPlain = true := by
  have bytes := (CustomHeader.header_eq_ok read).2
  have left : (∀ v ∈ h.values, v.text?.isSome = true) ↔
      ∀ b ∈ h.values.map Value.bytes, b.all Header.isVisibleByte = true := by
    simp only [List.forall_mem_map, Value.isSome_text?_iff]
  rw [left, bytes]
  simp only [List.forall_mem_map, Header.all_isVisibleByte_bytes]

theorem isSome_text?_slotHeader {P : Type} [HeaderPolicy P]
    (texts : ∀ p : P, (HeaderPolicy.value p).text?.isSome = true) {slot : Option (PolicySlot P)}
    {h : Header} (own : h ∈ (Declaration.slotHeader slot).toList) :
    ∀ v ∈ h.values, v.text?.isSome = true := by
  rw [Declaration.slotHeader_eq_map_chosen, Option.mem_toList, Option.map_eq_some_iff] at own
  obtain ⟨p, -, rfl⟩ := own
  exact List.forall_mem_singleton.2 (texts p)

/-- The headers of policies are text always, so the custom ones decide. -/
theorem isSome_text?_headers_iff {c : Headers} {fixed : List Header}
    (read : readCustomHeaders c.custom = .ok fixed) :
    (∀ h ∈ (c.declaration fixed).build.headers, ∀ v ∈ h.values, v.text?.isSome = true) ↔
      (c.enabled = true → ∀ e ∈ c.custom, ∀ s ∈ e.values, s.toList.all isPlain = true) := by
  have embedder : ∀ p : EmbedderPolicy, (HeaderPolicy.value p).text?.isSome = true := by
    intro p
    cases p <;> decide
  have referrer : ∀ p : ReferrerPolicy, (HeaderPolicy.value p).text?.isSome = true := by
    intro p
    cases p <;> decide
  cases on : c.enabled with
  | false =>
      rw [Headers.headers_of_disabled on]
      simp
  | true =>
      rw [Headers.headers_of_enabled on]
      constructor
      · intro texts _ e member
        obtain ⟨h, found, made⟩ := header_of_mem read member
        exact (isSome_text?_iff_of_read made).1 (texts h (List.mem_append_right _ found))
      · intro plain h member
        rcases List.mem_append.1 member with policy | found
        · rcases List.mem_append.1 policy with own | own
          · exact isSome_text?_slotHeader embedder own
          · exact isSome_text?_slotHeader referrer own
        · obtain ⟨e, listed, made⟩ := custom_of_mem read found
          exact (isSome_text?_iff_of_read made).2 (plain rfl e listed)

end Config

/-- Listed as JSON, the headers of a configuration have one entry each, which shows the values that
are text. It shows every header as it is where no custom header that is written has a character
beyond printable ASCII and the tab, and only there. -/
theorem json_listing_shows_iff (content : Content) (c : Config)
    (loaded : Config.load content = .ok c) :
    ∃ d output entries, c.headers.declare = .ok d ∧
      Cli.check (some content) true = { exit := 0, stdout := output } ∧
      Json.read? output = some (.list entries) ∧
      List.Forall₂ Cli.ShowsTexts entries d.build.headers ∧
      (List.Forall₂ Cli.Shows entries d.build.headers ↔
        (c.headers.enabled = true →
          ∀ e ∈ c.headers.custom, ∀ s ∈ e.values, s.toList.all isPlain = true)) := by
  obtain ⟨fixed, checked⟩ := Config.checked_of_faults_eq_nil (Config.faults_of_load loaded)
  have declared := Config.Headers.declare_of_read checked.read
  have read : Cli.readConfig (some content) = .ok c := loaded
  have printed := Cli.check_of_readConfig read declared true
  refine ⟨_, _, _, declared, printed, Cli.read?_listing _, ?texts, ?shows⟩
  case texts =>
    exact List.forall₂_map_left_iff.2 (List.forall₂_same.2 fun h _ => Cli.showsTexts_headerData h)
  case shows =>
    exact Cli.forall₂_shows_iff.trans (Config.isSome_text?_headers_iff checked.read)

theorem json_listing_shows_iff_of_escapes :
    let text := "[[headers.custom]]\nname = \"X-Note\"\nvalues = [\"a\\tb\", \"\\\"\"]\n"
    let c : Config := { headers := { custom := [⟨"X-Note", ["a\tb", "\""]⟩] } }
    Config.load (.file (Text.bytes text)) = .ok c ∧
      ∃ d output entries, c.headers.declare = .ok d ∧
        Cli.check (some (.file (Text.bytes text))) true = { exit := 0, stdout := output } ∧
        Json.read? output = some (.list entries) ∧
        List.Forall₂ Cli.ShowsTexts entries d.build.headers ∧
        (List.Forall₂ Cli.Shows entries d.build.headers ↔
          (c.headers.enabled = true →
            ∀ e ∈ c.headers.custom, ∀ s ∈ e.values, s.toList.all isPlain = true)) := by
  intro text c
  have loaded : Config.load (.file (Text.bytes text)) = .ok c :=
    Config.load_of_parse (by decide +kernel)
  exact ⟨loaded, json_listing_shows_iff _ _ loaded⟩

/-- A header of two values of which the JSON listing has one, while the line for it has both. -/
theorem opaque_value_not_listed :
    let content : Content := .file (Text.bytes
      "[[headers.custom]]\nname = \"X-Note\"\nvalues = [\"é\", \"plain\"]\n")
    let c : Config := { headers := { custom := [⟨"X-Note", ["é", "plain"]⟩] } }
    let note : Header := ⟨⟨"x-note", by decide⟩,
      [⟨Text.bytes "é", by decide⟩, ⟨Text.bytes "plain", by decide⟩], by decide⟩
    Config.load content = .ok c ∧ note.display = "x-note: <opaque>, plain" ∧
      ∃ d output entries, c.headers.declare = .ok d ∧ note ∈ d.build.headers ∧
        Cli.check (some content) true = { exit := 0, stdout := output } ∧
        Json.read? output = some (.list entries) ∧
        .map [("name", .text "x-note"), ("values", .list [.text "plain"])] ∈ entries ∧
        ¬ List.Forall₂ Cli.Shows entries d.build.headers := by
  intro content c note
  have loaded : Config.load content = .ok c := Config.load_of_parse (by decide +kernel)
  obtain ⟨fixed, checked⟩ := Config.checked_of_faults_eq_nil (Config.faults_of_load loaded)
  have declared := Config.Headers.declare_of_read checked.read
  have read : Cli.readConfig (some content) = .ok c := loaded
  have printed := Cli.check_of_readConfig read declared true
  have made : Config.CustomHeader.header ⟨"X-Note", ["é", "plain"]⟩ = .ok note :=
    Header.ofText_eq_ok_iff.2 (by decide)
  have listed : note ∈ (c.headers.declaration fixed).build.headers :=
    Config.Headers.mem_headers_of_custom rfl checked.read List.mem_cons_self made
  refine ⟨loaded, by decide, _, _, _, declared, listed, printed, Cli.read?_listing _, ?entry, ?lost⟩
  case entry =>
    exact List.mem_map.2 ⟨note, listed, rfl⟩
  case lost =>
    intro shown
    exact absurd (Cli.forall₂_shows_iff.1 shown note listed _ List.mem_cons_self) (by decide)

end SecureHeaders
