import SecureHeaders.Proofs.BuiltChain
import SecureHeaders.Proofs.CheckedConfig
import SecureHeaders.Proofs.HeaderReading
/-!
What a configuration without faults makes of a message, read off its sections: the two policies,
the custom headers by their names in lower case, and nothing else. That the check leaves no custom
header with a managed name, and no two with one name, is what the later stages rely on.
-/

namespace SecureHeaders

open Config (readCustomHeaders managedNames)
open Header (Fields Name Value)

namespace Config

theorem CustomHeader.header_eq_ok {e : CustomHeader} {h : Header} (read : e.header = .ok h) :
    h.name.text = Header.lower e.name ∧ h.values.map Value.bytes = e.values.map Text.bytes :=
  (Header.ofText_eq_ok_iff.1 read).2

theorem header_of_mem {l : List CustomHeader} {fixed : List Header}
    (read : readCustomHeaders l = .ok fixed) {e : CustomHeader} (member : e ∈ l) :
    ∃ h ∈ fixed, e.header = .ok h := by
  have there : e.header ∈ fixed.map Except.ok := by
    rw [← readCustomHeaders_eq_ok_iff.1 read]
    exact List.mem_map_of_mem member
  obtain ⟨h, found, same⟩ := List.mem_map.1 there
  exact ⟨h, found, same.symm⟩

theorem custom_of_mem {l : List CustomHeader} {fixed : List Header}
    (read : readCustomHeaders l = .ok fixed) {h : Header} (member : h ∈ fixed) :
    ∃ e ∈ l, e.header = .ok h := by
  have there : Except.ok h ∈ l.map CustomHeader.header := by
    rw [readCustomHeaders_eq_ok_iff.1 read]
    exact List.mem_map_of_mem member
  exact List.mem_map.1 there

theorem names_of_read {l : List CustomHeader} {fixed : List Header}
    (read : readCustomHeaders l = .ok fixed) :
    (fixed.map Header.name).map Name.text = l.map fun e => Header.lower e.name := by
  rw [readCustomHeaders_eq_ok_iff] at read
  induction l generalizing fixed with
  | nil =>
      cases fixed with
      | nil => rfl
      | cons h fixed => cases read
  | cons e l ih =>
      cases fixed with
      | nil => cases read
      | cons h fixed =>
          rw [List.map_cons, List.map_cons, List.cons.injEq] at read
          have name := (CustomHeader.header_eq_ok read.1).1
          simp only [List.map_cons, name, ih read.2]

theorem Headers.Checked.nodup_custom {c : Headers} {fixed : List Header}
    (checked : c.Checked fixed) : (c.custom.map fun e => Header.lower e.name).Nodup := by
  rw [← names_of_read checked.read]
  refine List.Pairwise.map Name.text ?_ checked.distinct
  intro a b apart same
  exact apart (Name.ext same)

/-- The values of a custom header, found by its name in lower case. -/
theorem Headers.Checked.firstValues_custom {c : Headers} {fixed : List Header}
    (checked : c.Checked fixed) {n : Name} {e : CustomHeader} (member : e ∈ c.custom)
    (named : Header.lower e.name = n.text) :
    (Chain.firstValues fixed n).map Value.bytes = e.values.map Text.bytes := by
  obtain ⟨h, found, read⟩ := header_of_mem checked.read member
  obtain ⟨name, values⟩ := CustomHeader.header_eq_ok read
  have same : h.name = n := Name.ext (name.trans named)
  rw [← same, Chain.firstValues_of_mem checked.distinct found]
  exact values

theorem Headers.Checked.firstValues_eq_nil {c : Headers} {fixed : List Header}
    (checked : c.Checked fixed) {n : Name}
    (unlisted : ∀ e ∈ c.custom, Header.lower e.name ≠ n.text) :
    Chain.firstValues fixed n = [] := by
  apply Chain.firstValues_eq_nil_iff.2
  intro h found same
  obtain ⟨e, member, read⟩ := custom_of_mem checked.read found
  apply unlisted e member
  rw [← same]
  exact (CustomHeader.header_eq_ok read).1.symm

theorem Headers.headers_of_disabled {c : Headers} (off : c.enabled = false)
    (fixed : List Header) : (c.declaration fixed).build.headers = [] := by
  rw [Declaration.headers_build]
  exact if_pos (by rw [declaration, off]; rfl)

theorem Headers.headers_of_enabled {c : Headers} (on : c.enabled = true)
    (fixed : List Header) :
    (c.declaration fixed).build.headers =
      (Declaration.slotHeader c.embedder.slot).toList
        ++ (Declaration.slotHeader c.referrer.slot).toList ++ fixed := by
  rw [Declaration.headers_build]
  exact if_neg (by rw [declaration, on]; simp)

theorem Headers.mem_headers_of_custom {c : Headers} (on : c.enabled = true) {fixed : List Header}
    (read : readCustomHeaders c.custom = .ok fixed) {e : CustomHeader} (member : e ∈ c.custom)
    {h : Header} (made : e.header = .ok h) : h ∈ (c.declaration fixed).build.headers := by
  obtain ⟨h', found, same⟩ := header_of_mem read member
  rw [made, Except.ok.injEq] at same
  rw [headers_of_enabled on, same]
  exact List.mem_append_right _ found

theorem PolicySection.chosen_slot {P : Type} [HeaderPolicy P] (s : PolicySection P) :
    Declaration.chosen s.slot = if s.enabled then s.policy.or HeaderPolicy.fallback else none := by
  unfold PolicySection.slot
  cases s.enabled <;> rfl

theorem not_mem_managedNames {n : Name} :
    n ∉ managedNames ↔ n ≠ EmbedderPolicy.name ∧ n ≠ ReferrerPolicy.name := by
  simp [managedNames]

theorem firstValues_of_unmanaged {fixed : List Header} (free : ∀ h ∈ fixed, h.name ∉ managedNames)
    {n : Name} (managed : n ∈ managedNames) : Chain.firstValues fixed n = [] := by
  apply Chain.firstValues_eq_nil_iff.2
  intro h member same
  apply free h member
  rw [same]
  exact managed

theorem Headers.disabled_declaration {c : Headers} (on : c.enabled = true)
    (fixed : List Header) : ¬ (c.declaration fixed).disabled = true := by
  simp [declaration, on]

theorem Headers.Checked.firstValues_embedder {c : Headers} {fixed : List Header}
    (checked : c.Checked fixed) (on : c.enabled = true) :
    Chain.firstValues (c.declaration fixed).build.headers EmbedderPolicy.name =
      if c.embedder.enabled then (c.embedder.policy.map HeaderPolicy.value).toList else [] := by
  have custom : Chain.firstValues fixed (HeaderPolicy.header EmbedderPolicy) = [] :=
    firstValues_of_unmanaged checked.unmanaged (by decide)
  have bare : (HeaderPolicy.fallback : Option EmbedderPolicy) = none := rfl
  rw [Declaration.firstValues_embedder, if_neg (disabled_declaration on fixed)]
  change Declaration.offered c.embedder.slot fixed = _
  rw [Declaration.offered_of_free _ custom, PolicySection.chosen_slot, bare, Option.or_none]
  cases c.embedder.enabled <;> cases c.embedder.policy <;> rfl

theorem Headers.Checked.firstValues_referrer {c : Headers} {fixed : List Header}
    (checked : c.Checked fixed) (on : c.enabled = true) :
    Chain.firstValues (c.declaration fixed).build.headers ReferrerPolicy.name =
      if c.referrer.enabled then [HeaderPolicy.value (c.referrer.policy.getD .noReferrer)]
      else [] := by
  have custom : Chain.firstValues fixed (HeaderPolicy.header ReferrerPolicy) = [] :=
    firstValues_of_unmanaged checked.unmanaged (by decide)
  have fallback : (HeaderPolicy.fallback : Option ReferrerPolicy) = some .noReferrer := rfl
  rw [Declaration.firstValues_referrer, if_neg (disabled_declaration on fixed)]
  change Declaration.offered c.referrer.slot fixed = _
  rw [Declaration.offered_of_free _ custom, PolicySection.chosen_slot, fallback]
  cases c.referrer.enabled <;> cases c.referrer.policy <;> rfl

theorem Headers.firstValues_unmanaged {c : Headers} (on : c.enabled = true)
    (fixed : List Header) {n : Name} (free : n ∉ managedNames) :
    Chain.firstValues (c.declaration fixed).build.headers n = Chain.firstValues fixed n := by
  obtain ⟨embedder, referrer⟩ := not_mem_managedNames.1 free
  rw [Declaration.firstValues_build, if_neg (disabled_declaration on fixed), if_neg embedder,
    if_neg referrer]
  rfl

theorem Headers.names_sublist (c : Headers) (fixed : List Header) :
    ((c.declaration fixed).build.headers.map Header.name).Sublist
      (EmbedderPolicy.name :: ReferrerPolicy.name :: fixed.map Header.name) := by
  cases on : c.enabled with
  | false =>
      rw [headers_of_disabled on]
      exact List.nil_sublist _
  | true =>
      rw [headers_of_enabled on, List.map_append, List.map_append]
      have embedder := Declaration.names_slotHeader_sublist c.embedder.slot
      have referrer := Declaration.names_slotHeader_sublist c.referrer.slot
      exact (embedder.append referrer).append (List.Sublist.refl _)

/-- What a headers section makes of a message: `before` and `after` are the message, `written` the
names that are reported. -/
structure Headers.Meaning (c : Headers) (before after : Fields) (written : List Name) :
    Prop where
  kept : ∀ n, before.contains n = true → after.values n = before.values n
  off : c.enabled = false → ∀ n, before.contains n = false → after.contains n = false
  embedder : c.enabled = true → before.contains EmbedderPolicy.name = false →
    (after.values EmbedderPolicy.name).map Value.bytes =
      if c.embedder.enabled then (c.embedder.policy.map fun p => Text.bytes p.wire).toList else []
  referrer : c.enabled = true → before.contains ReferrerPolicy.name = false →
    (after.values ReferrerPolicy.name).map Value.bytes =
      if c.referrer.enabled then [Text.bytes (c.referrer.policy.getD .noReferrer).wire] else []
  custom : c.enabled = true → ∀ n e, n ≠ EmbedderPolicy.name → n ≠ ReferrerPolicy.name →
    before.contains n = false → e ∈ c.custom → Header.lower e.name = n.text →
    (after.values n).map Value.bytes = e.values.map Text.bytes
  unlisted : c.enabled = true → ∀ n, n ≠ EmbedderPolicy.name → n ≠ ReferrerPolicy.name →
    before.contains n = false → (∀ e ∈ c.custom, Header.lower e.name ≠ n.text) →
    after.contains n = false
  unique : (c.custom.map fun e => Header.lower e.name).Nodup
  reported : ∀ n, n ∈ written ↔ before.contains n = false ∧ after.contains n = true
  once : written.Nodup
  ordered : (written.map Name.text).Sublist (EmbedderPolicy.name.text ::
    ReferrerPolicy.name.text :: c.custom.map fun e => Header.lower e.name)

end Config

/-- A configuration without faults has a server, and its chain does what the sections say. -/
theorem ofConfig_meaning (c : Config) (sound : c.faults = []) :
    ∃ s, Http.Server.ofConfig c = .ok s ∧
      ∀ m, c.headers.Meaning m (s.chain.writeAll m).1 (s.chain.writeAll m).2 := by
  obtain ⟨fixed, checked, made⟩ := Http.Server.ofConfig_of_faults_eq_nil sound
  refine ⟨_, made, ?_⟩
  intro m
  change c.headers.Meaning m ((c.headers.declaration fixed).build.writeAll m).1
    ((c.headers.declaration fixed).build.writeAll m).2
  constructor
  case kept =>
    intro n present
    exact Chain.values_writeAll_of_present _ present
  case off =>
    intro off n absent
    rw [Fields.contains_eq_false_iff, Chain.values_writeAll_of_absent _ absent,
      Config.Headers.headers_of_disabled off]
    rfl
  case embedder =>
    intro on absent
    rw [Chain.values_writeAll_of_absent _ absent, checked.firstValues_embedder on]
    cases c.headers.embedder.enabled <;> cases c.headers.embedder.policy <;> rfl
  case referrer =>
    intro on absent
    rw [Chain.values_writeAll_of_absent _ absent, checked.firstValues_referrer on]
    cases c.headers.referrer.enabled <;> rfl
  case custom =>
    intro on n e embedder referrer absent member named
    rw [Chain.values_writeAll_of_absent _ absent, Config.Headers.firstValues_unmanaged on fixed
      (Config.not_mem_managedNames.2 ⟨embedder, referrer⟩)]
    exact checked.firstValues_custom member named
  case unlisted =>
    intro on n embedder referrer absent unlisted
    rw [Fields.contains_eq_false_iff, Chain.values_writeAll_of_absent _ absent,
      Config.Headers.firstValues_unmanaged on fixed
        (Config.not_mem_managedNames.2 ⟨embedder, referrer⟩)]
    exact checked.firstValues_eq_nil unlisted
  case unique => exact checked.nodup_custom
  case reported =>
    intro n
    exact Chain.mem_written_run
  case once => exact Chain.nodup_written_run _ m
  case ordered =>
    have offered := (Chain.written_run_sublist _ m).trans (c.headers.names_sublist fixed)
    have texts := offered.map Name.text
    rw [List.map_cons, List.map_cons, Config.names_of_read checked.read] at texts
    exact texts

theorem ofConfig_meaning_of_custom :
    let c : Config := { headers := {
      embedder := { policy := some .requireCorp }
      custom := [⟨"X-Frame-Options", ["DENY"]⟩, ⟨"Vary", ["Origin", "é"]⟩] } }
    c.faults = [] ∧ ∃ s, Http.Server.ofConfig c = .ok s ∧
      ∀ m, c.headers.Meaning m (s.chain.writeAll m).1 (s.chain.writeAll m).2 :=
  ⟨by decide, ofConfig_meaning _ (by decide)⟩

end SecureHeaders
