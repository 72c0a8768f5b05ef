import SecureHeaders.Proofs.BuiltChain
import SecureHeaders.Proofs.NormalForm
/-!
What a chain offers beside what a message without any of it receives. The headers of a chain are
computed one by one, while its writers compete for names, so the two agree exactly where no name is
offered twice. Steps of a declaration may offer one twice: no step looks at the headers before it.
-/

namespace SecureHeaders

open Header (Fields Name Value)

namespace Chain

/-- The message receives what the chain offers: its names in order, and its values under each. -/
structure Delivers (c : Chain) (m : Fields) : Prop where
  names : (c.writeAll m).2 = c.headers.map Header.name
  values : ∀ h ∈ c.headers, (c.writeAll m).1.values h.name = h.values

/-- The induction is on the writers, for every message: a name that is written is not offered
again, so those still to come stay absent. -/
theorem written_run_of_nodup {ws : List Writer} {m : Fields}
    (distinct : ((ws.filterMap Writer.compute).map Header.name).Nodup)
    (bare : ∀ h ∈ ws.filterMap Writer.compute, m.contains h.name = false) :
    (run ws m).2 = (ws.filterMap Writer.compute).map Header.name := by
  induction ws generalizing m with
  | nil => rfl
  | cons w ws ih =>
      rw [run_cons]
      cases computed : w.compute with
      | none =>
          rw [List.filterMap_cons_none computed] at distinct bare ⊢
          rw [Writer.write_of_compute_eq_none computed]
          exact ih distinct bare
      | some h =>
          rw [List.filterMap_cons_some computed] at distinct bare ⊢
          rw [List.map_cons, List.nodup_cons] at distinct
          rw [List.forall_mem_cons] at bare
          rw [Writer.write_of_contains_eq_false computed bare.1]
          have later : ∀ h' ∈ ws.filterMap Writer.compute,
              (m.appendHeader h).contains h'.name = false := by
            intro h' member
            have other : h'.name ≠ h.name := by
              intro same
              exact distinct.1 (List.mem_map.2 ⟨h', member, same⟩)
            rw [Fields.contains_appendHeader, bare.2 h' member, decide_eq_false other]
            rfl
          have rest := ih distinct.2 later
          rw [rest]
          rfl

theorem delivers_iff {c : Chain} {m : Fields} (bare : ∀ h ∈ c.headers, m.contains h.name = false) :
    c.Delivers m ↔ (c.headers.map Header.name).Nodup := by
  constructor
  · intro delivers
    rw [← delivers.names]
    exact nodup_written_run c.writers m
  · intro distinct
    refine ⟨written_run_of_nodup distinct bare, ?_⟩
    intro h member
    rw [values_writeAll_of_absent c (bare h member)]
    exact firstValues_of_mem distinct member

end Chain

namespace Declaration

/-- No two headers of a declaration have one name. A policy without a member has no header. -/
structure Distinct (d : Declaration) : Prop where
  fixed : (d.fixed.map Header.name).Nodup
  embedder : chosen d.embedder ≠ none → ∀ h ∈ d.fixed, h.name ≠ EmbedderPolicy.name
  referrer : chosen d.referrer ≠ none → ∀ h ∈ d.fixed, h.name ≠ ReferrerPolicy.name

theorem names_build {d : Declaration} (on : d.disabled = false) :
    d.build.headers.map Header.name =
      ((chosen d.embedder).toList.map fun _ => EmbedderPolicy.name)
        ++ ((chosen d.referrer).toList.map fun _ => ReferrerPolicy.name)
        ++ d.fixed.map Header.name := by
  rw [headers_build, on]
  simp only [Bool.false_eq_true, if_false, List.map_append, names_slotHeader]
  rfl

theorem nodup_slot_append {P : Type} (member : Option P) (n : Name) (names : List Name) :
    ((member.toList.map fun _ => n) ++ names).Nodup ↔
      names.Nodup ∧ (member ≠ none → n ∉ names) := by
  cases member with
  | none => simp
  | some p => simp [List.nodup_cons, and_comm]

theorem not_mem_slot_append {P : Type} (member : Option P) {k n : Name} (apart : n ≠ k)
    (names : List Name) :
    n ∉ (member.toList.map fun _ => k) ++ names ↔ n ∉ names := by
  cases member with
  | none => simp
  | some p => simp [apart]

theorem not_mem_names_iff {n : Name} {hs : List Header} :
    n ∉ hs.map Header.name ↔ ∀ h ∈ hs, h.name ≠ n := by
  simp

theorem nodup_names_build {d : Declaration} :
    (d.build.headers.map Header.name).Nodup ↔ d.disabled = true ∨ d.Distinct := by
  cases off : d.disabled with
  | true =>
      have none : d.build.headers = [] := by
        rw [headers_build]
        exact if_pos off
      simp [none]
  | false =>
      have apart : EmbedderPolicy.name ≠ ReferrerPolicy.name := by decide
      rw [names_build off, List.append_assoc, nodup_slot_append, nodup_slot_append,
        not_mem_slot_append _ apart, not_mem_names_iff, not_mem_names_iff]
      constructor
      · rintro ⟨⟨fixed, referrer⟩, embedder⟩
        exact Or.inr ⟨fixed, embedder, referrer⟩
      · intro either
        have distinct := either.resolve_left Bool.false_ne_true
        exact ⟨⟨distinct.fixed, distinct.referrer⟩, distinct.embedder⟩

/-- A message that has none of the headers receives all of them as they are, exactly where no name
is offered twice: the fixed headers and each policy with a member have names of their own. -/
theorem build_run_delivers_iff (steps : List Step) (m : Fields)
    (bare : ∀ h ∈ (run steps).build.headers, m.contains h.name = false) :
    (run steps).build.Delivers m ↔
      (parts steps).disabled = true ∨ (parts steps).declaration.Distinct := by
  rw [Chain.delivers_iff bare, run_eq_declaration]
  exact nodup_names_build

theorem build_run_delivers_iff_of_two_fixed :
    let steps : List Step := [.fixed ⟨⟨"x-frame-options", by decide⟩,
      [⟨Text.bytes "DENY", by decide⟩], by simp⟩, .referrer id, .embedder id, .fixed
      ⟨⟨"cache-control", by decide⟩, [⟨Text.bytes "no-cache", by decide⟩,
        ⟨Text.bytes "no-store", by decide⟩], by simp⟩]
    let m : Fields := ⟨[(⟨"vary", by decide⟩, ⟨Text.bytes "Origin", by decide⟩)]⟩
    (∀ h ∈ (run steps).build.headers, m.contains h.name = false) ∧
      ((run steps).build.Delivers m ↔
        (parts steps).disabled = true ∨ (parts steps).declaration.Distinct) :=
  ⟨by decide, build_run_delivers_iff _ _ (by decide)⟩

/-- A fixed header that is declared twice: the second one is listed, and no message receives it. -/
theorem repeated_header_not_delivered :
    let frame (v : Value) : Header := .single ⟨"x-frame-options", by decide⟩ v
    let first := frame ⟨Text.bytes "DENY", by decide⟩
    let second := frame ⟨Text.bytes "SAMEORIGIN", by decide⟩
    let c := (run [.fixed first, .fixed second]).build
    (∀ h ∈ c.headers, Fields.empty.contains h.name = false) ∧
      c.headers.map Header.name = [first.name, second.name] ∧
      (c.writeAll Fields.empty).2 = [first.name] ∧
      (c.writeAll Fields.empty).1.values second.name = first.values ∧
      ¬ c.Delivers Fields.empty := by
  intro frame first second c
  have written : (c.writeAll Fields.empty).2 = [first.name] := by decide
  refine ⟨by decide, by decide, written, by decide, ?_⟩
  intro delivers
  have names := delivers.names
  rw [written] at names
  exact absurd (congrArg List.length names) (by decide)

end Declaration
end SecureHeaders
