import SecureHeaders.Proofs.BuiltChain
import SecureHeaders.Proofs.HeaderReading
import SecureHeaders.Proofs.NormalForm
/-!
What stands under the names of the policy headers once a built chain has run. A policy with a
member writes its wire text, whatever fixed headers are declared beside it; a policy without one
leaves its name free.
-/

namespace SecureHeaders.Declaration

open Header (Fields Name Value)

section Closed

variable {P : Type} [HeaderPolicy P]

/-- No fixed header takes the name of a policy header that is left without a member. -/
def Uncontested (p : Parts) (edits : List (Edit P)) : Prop :=
  p.disabled = false → chosen (configured edits) = none →
    ∀ h ∈ p.fixed, h.name ≠ HeaderPolicy.header P

/-- What may stand under the name of a policy header: `after` are the headers of a message that
lacked it, once the chain of the parts has run. -/
structure Closed (p : Parts) (edits : List (Edit P)) (after : Fields) : Prop where
  wire : after.contains (HeaderPolicy.header P) = true →
    ∃ member : P, (after.values (HeaderPolicy.header P)).map Value.bytes =
      [Text.bytes (HeaderPolicy.wire member)]
  unset : ∀ slot, configured edits = some slot → slot.policy = none →
    (after.contains (HeaderPolicy.header P) = true ↔
      p.disabled = false ∧ (HeaderPolicy.fallback : Option P) ≠ none)

theorem chosen_of_unset {slot : PolicySlot P} (unset : slot.policy = none) :
    chosen (some slot) = HeaderPolicy.fallback := by
  rw [chosen, Option.bind_some, unset, Option.none_or]

theorem closed_of_values {p : Parts} {edits : List (Edit P)} {after : Fields}
    (values : after.values (HeaderPolicy.header P) =
      if p.disabled then [] else offered (configured edits) p.fixed)
    (free : Uncontested p edits) : Closed p edits after := by
  have present : after.contains (HeaderPolicy.header P) = true ↔
      p.disabled = false ∧ chosen (configured edits) ≠ none := by
    rw [Fields.contains_iff, values]
    cases off : p.disabled with
    | true => simp
    | false =>
        cases member : chosen (configured edits) with
        | some member' => simp [offered, member]
        | none =>
            have unlisted := Chain.firstValues_eq_nil_iff.2 (free off member)
            simp [offered, member, unlisted]
  constructor
  case wire =>
    intro there
    obtain ⟨on, chose⟩ := present.1 there
    obtain ⟨member, chose⟩ := Option.ne_none_iff_exists'.1 chose
    refine ⟨member, ?_⟩
    rw [values, on, offered, chose]
    rfl
  case unset =>
    intro slot declared unset
    rw [present, declared, chosen_of_unset unset]

end Closed

/-- Under the name of a policy header stands a wire text of the policy and nothing else, and an
undecided policy is written exactly where it has a fallback and headers are not turned off. -/
theorem build_run_closed (steps : List Step) (m : Fields) :
    (m.contains EmbedderPolicy.name = false →
      Uncontested (parts steps) (parts steps).embedder →
      Closed (parts steps) (parts steps).embedder ((run steps).build.writeAll m).1) ∧
    (m.contains ReferrerPolicy.name = false →
      Uncontested (parts steps) (parts steps).referrer →
      Closed (parts steps) (parts steps).referrer ((run steps).build.writeAll m).1) := by
  rw [run_eq_declaration]
  constructor
  · intro absent free
    apply closed_of_values _ free
    exact (Chain.values_writeAll_of_absent _ absent).trans (firstValues_embedder _)
  · intro absent free
    apply closed_of_values _ free
    exact (Chain.values_writeAll_of_absent _ absent).trans (firstValues_referrer _)

/-- A fixed header of the same name, declared first, does not get in front of a policy. -/
theorem build_run_closed_of_shadowed :
    let shadow : Header := .single ReferrerPolicy.name ⟨Text.bytes "anything", by decide⟩
    let steps : List Step := [.fixed shadow, .embedder id, .referrer id, .fixed shadow]
    let m := Fields.empty
    m.contains EmbedderPolicy.name = false ∧ m.contains ReferrerPolicy.name = false ∧
      Uncontested (parts steps) (parts steps).embedder ∧
      Uncontested (parts steps) (parts steps).referrer ∧
      Closed (parts steps) (parts steps).embedder ((run steps).build.writeAll m).1 ∧
      Closed (parts steps) (parts steps).referrer ((run steps).build.writeAll m).1 := by
  intro shadow steps m
  have embedder : Uncontested (parts steps) (parts steps).embedder := fun _ _ => by decide
  have referrer : Uncontested (parts steps) (parts steps).referrer :=
    fun _ free => absurd free (by decide)
  exact ⟨by decide, by decide, embedder, referrer,
    (build_run_closed steps m).1 (by decide) embedder,
    (build_run_closed steps m).2 (by decide) referrer⟩

/-- A header with a fallback that is declared, left unset and turned off is not written. -/
theorem disabled_fallback_not_written :
    let steps : List Step := [.referrer id, .disable]
    let after := ((run steps).build.writeAll Fields.empty).1
    Fields.empty.contains ReferrerPolicy.name = false ∧
      configured (parts steps).referrer = some {} ∧
      (HeaderPolicy.fallback : Option ReferrerPolicy) ≠ none ∧
      ¬ (after.contains ReferrerPolicy.name = true ↔
        (HeaderPolicy.fallback : Option ReferrerPolicy) ≠ none) := by
  decide

/-- A policy header that a chain has written: `outcome` is the message behind the chain, with the
names that are reported. -/
structure WrittenOnce {P : Type} [HeaderPolicy P] (member : P) (outcome : Fields × List Name) :
    Prop where
  values : (outcome.1.values (HeaderPolicy.header P)).map Value.bytes =
    [Text.bytes (HeaderPolicy.wire member)]
  reported : outcome.2.count (HeaderPolicy.header P) = 1

/-- The fixed headers do not matter: what the slot has decided is offered in their place. -/
theorem writtenOnce_of_decided {P : Type} [HeaderPolicy P] {c : Chain} {m : Fields}
    {slot : PolicySlot P} {fixed : List Header} {member : P}
    (offers : Chain.firstValues c.headers (HeaderPolicy.header P) = offered (some slot) fixed)
    (decided : slot.policy.or HeaderPolicy.fallback = some member)
    (absent : m.contains (HeaderPolicy.header P) = false) :
    WrittenOnce member (c.writeAll m) := by
  have chose : chosen (some slot) = some member := decided
  rw [offered, chose] at offers
  constructor
  case values =>
    rw [Chain.values_writeAll_of_absent c absent, offers]
    rfl
  case reported =>
    have named : HeaderPolicy.header P ∈ c.headers.map Header.name :=
      Chain.firstValues_ne_nil_iff.1 (offers ▸ List.cons_ne_nil _ _)
    rw [Chain.count_written_writeAll]
    exact if_pos ⟨named, absent⟩

theorem run_disabled_of_forall {steps : List Step} (on : ∀ s ∈ steps, s.disables = false) :
    (run steps).disabled = false := by
  rw [run_eq_declaration]
  have none : ¬ ∃ s ∈ steps, s.disables = true := by
    rintro ⟨s, member, off⟩
    rw [on s member] at off
    cases off
  exact Bool.eq_false_iff.2 fun off => none (List.any_eq_true.1 off)

/-- A policy with a member is written, once, whatever fixed headers are declared beside it: also
those of its own name, before it and behind it. -/
theorem build_run_writes_policy (steps : List Step) (m : Fields)
    (on : ∀ s ∈ steps, s.disables = false) :
    (∀ slot member, (run steps).embedder = some slot →
      slot.policy.or HeaderPolicy.fallback = some member →
      m.contains EmbedderPolicy.name = false →
      WrittenOnce member ((run steps).build.writeAll m)) ∧
    (∀ slot member, (run steps).referrer = some slot →
      slot.policy.or HeaderPolicy.fallback = some member →
      m.contains ReferrerPolicy.name = false →
      WrittenOnce member ((run steps).build.writeAll m)) := by
  have enabled := run_disabled_of_forall on
  constructor
  · intro slot member declared decided absent
    have offers := firstValues_embedder (run steps)
    rw [enabled, declared] at offers
    exact writtenOnce_of_decided offers decided absent
  · intro slot member declared decided absent
    have offers := firstValues_referrer (run steps)
    rw [enabled, declared] at offers
    exact writtenOnce_of_decided offers decided absent

theorem build_run_writes_policy_of_contested :
    let before : Header := .single ReferrerPolicy.name ⟨Text.bytes "anything", by decide⟩
    let behind : Header := .single EmbedderPolicy.name ⟨Text.bytes "none", by decide⟩
    let steps : List Step := [.fixed before, .referrer id,
      .embedder fun slot => slot.set .requireCorp, .fixed behind, .embedder id]
    let m := Fields.empty
    Header.ofText "Referrer-POLICY" ["anything"] = .ok before ∧
      Header.ofText "Cross-Origin-EMBEDDER-Policy" ["none"] = .ok behind ∧
      (∀ s ∈ steps, s.disables = false) ∧
      (run steps).embedder = some ⟨some .requireCorp⟩ ∧ (run steps).referrer = some ⟨none⟩ ∧
      WrittenOnce EmbedderPolicy.requireCorp ((run steps).build.writeAll m) ∧
      WrittenOnce ReferrerPolicy.noReferrer ((run steps).build.writeAll m) := by
  intro before behind steps m
  have on : ∀ s ∈ steps, s.disables = false := by simp [steps, Step.disables]
  have writes := build_run_writes_policy steps m on
  exact ⟨Header.ofText_eq_ok_iff.2 (by decide), Header.ofText_eq_ok_iff.2 (by decide), on, rfl, rfl,
    writes.1 ⟨some .requireCorp⟩ .requireCorp rfl rfl (by decide),
    writes.2 ⟨none⟩ .noReferrer rfl rfl (by decide)⟩

end SecureHeaders.Declaration
