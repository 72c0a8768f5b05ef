import SecureHeaders.Chain.Declaration
import SecureHeaders.Proofs.FirstWins
/-!
The headers of a built chain, slot by slot: those of the two policies, then the fixed ones; and what
they offer under a name, where a policy with a member hides the fixed headers of its name.
-/

namespace SecureHeaders

open Header (Name Value)

namespace Chain

theorem firstValues_append (a b : List Header) (n : Name) :
    firstValues (a ++ b) n = if firstValues a n = [] then firstValues b n else firstValues a n := by
  induction a with
  | nil => simp
  | cons h a ih =>
      rw [List.cons_append, firstValues_cons, firstValues_cons]
      by_cases own : h.name = n
      · simp [own, h.hasValue]
      · simp only [if_neg own, ih]

/-- Where no two headers share a name, each is the first of its own. -/
theorem firstValues_of_mem {offered : List Header} (distinct : (offered.map Header.name).Nodup)
    {h : Header} (member : h ∈ offered) : firstValues offered h.name = h.values := by
  induction offered with
  | nil => cases member
  | cons first offered ih =>
      rw [List.map_cons, List.nodup_cons] at distinct
      rw [firstValues_cons]
      rcases List.mem_cons.1 member with rfl | later
      · exact if_pos rfl
      · have other : first.name ≠ h.name := by
          intro same
          exact distinct.1 (List.mem_map.2 ⟨h, later, same.symm⟩)
        rw [if_neg other]
        exact ih distinct.2 later

end Chain

namespace HeaderPolicy

variable {P : Type} [HeaderPolicy P]

/-- A policy without a member and without a fallback leaves its header out. -/
theorem firstValues_compute (policy : Option P) (n : Name) :
    Chain.firstValues (compute policy).toList n =
      if n = header P then (policy.or fallback).toList.map value else [] := by
  unfold compute
  cases policy.or fallback with
  | none => simp
  | some p =>
      have named : (Header.single (header P) (value p)).name = header P := rfl
      rw [Option.map_some, Option.toList_some, Chain.firstValues_cons, named]
      by_cases own : n = header P
      · rw [if_pos own, if_pos own.symm]
        rfl
      · have other : header P ≠ n := fun same => own same.symm
        rw [if_neg own, if_neg other]
        rfl

end HeaderPolicy

namespace Declaration

/-- The header of a slot; a header that was not declared has none. -/
def slotHeader {P : Type} [HeaderPolicy P] (slot : Option (PolicySlot P)) : Option Header :=
  slot.bind fun s => HeaderPolicy.compute s.policy

/-- The member that the header of a slot is written with; without one it is left out. -/
def chosen {P : Type} [HeaderPolicy P] (slot : Option (PolicySlot P)) : Option P :=
  slot.bind fun s => s.policy.or HeaderPolicy.fallback

theorem slotHeader_eq_map_chosen {P : Type} [HeaderPolicy P] (slot : Option (PolicySlot P)) :
    slotHeader slot =
      (chosen slot).map fun p => Header.single (HeaderPolicy.header P) (HeaderPolicy.value p) := by
  cases slot <;> rfl

theorem firstValues_slotHeader {P : Type} [HeaderPolicy P] (slot : Option (PolicySlot P))
    (n : Name) :
    Chain.firstValues (slotHeader slot).toList n =
      if n = HeaderPolicy.header P then (chosen slot).toList.map HeaderPolicy.value else [] := by
  cases slot with
  | none => simp [slotHeader, chosen]
  | some s => exact HeaderPolicy.firstValues_compute s.policy n

theorem names_slotHeader {P : Type} [HeaderPolicy P] (slot : Option (PolicySlot P)) :
    (slotHeader slot).toList.map Header.name =
      (chosen slot).toList.map fun _ => HeaderPolicy.header P := by
  rw [slotHeader_eq_map_chosen]
  cases chosen slot <;> rfl

theorem names_slotHeader_sublist {P : Type} [HeaderPolicy P] (slot : Option (PolicySlot P)) :
    ((slotHeader slot).toList.map Header.name).Sublist [HeaderPolicy.header P] := by
  rw [names_slotHeader]
  cases chosen slot with
  | none => exact List.nil_sublist _
  | some member => exact List.Sublist.refl _

theorem filterMap_slot {P : Type} [HeaderPolicy P] (writer : Option P → Writer)
    (computes : ∀ policy, (writer policy).compute = HeaderPolicy.compute policy)
    (slot : Option (PolicySlot P)) :
    (slot.map fun s => writer s.policy).toList.filterMap Writer.compute =
      (slotHeader slot).toList := by
  cases slot with
  | none => rfl
  | some s =>
      have computed := computes s.policy
      rw [Option.map_some, Option.toList_some, slotHeader, Option.bind_some, ← computed,
        List.filterMap_cons]
      cases (writer s.policy).compute <;> rfl

theorem headers_build (d : Declaration) :
    d.build.headers =
      if d.disabled then []
      else (slotHeader d.embedder).toList ++ (slotHeader d.referrer).toList ++ d.fixed := by
  unfold build
  split
  · rfl
  · have embedder := filterMap_slot Writer.embedder (fun _ => rfl) d.embedder
    have referrer := filterMap_slot Writer.referrer (fun _ => rfl) d.referrer
    have fixed : (d.fixed.map Writer.fixed).filterMap Writer.compute = d.fixed := by
      rw [List.filterMap_map]
      exact List.filterMap_some
    simp only [Chain.headers, writers, List.filterMap_append, embedder, referrer, fixed]

/-- What is offered under the name of a policy header: the member of its slot, else what the first
fixed header of that name holds. -/
def offered {P : Type} [HeaderPolicy P] (slot : Option (PolicySlot P)) (fixed : List Header) :
    List Value :=
  match chosen slot with
  | some member => [HeaderPolicy.value member]
  | none => Chain.firstValues fixed (HeaderPolicy.header P)

theorem offered_of_free {P : Type} [HeaderPolicy P] (slot : Option (PolicySlot P))
    {fixed : List Header} (free : Chain.firstValues fixed (HeaderPolicy.header P) = []) :
    offered slot fixed = (chosen slot).toList.map HeaderPolicy.value := by
  unfold offered
  cases chosen slot with
  | none => exact free
  | some member => rfl

theorem offered_congr {P : Type} [HeaderPolicy P] (slot : Option (PolicySlot P))
    {a b : List Header} (same : ∀ n, Chain.firstValues a n = Chain.firstValues b n) :
    offered slot a = offered slot b := by
  unfold offered
  cases chosen slot with
  | none => exact same _
  | some member => rfl

theorem firstValues_slotHeader_append {P : Type} [HeaderPolicy P] (slot : Option (PolicySlot P))
    (fixed : List Header) (n : Name) :
    Chain.firstValues ((slotHeader slot).toList ++ fixed) n =
      if n = HeaderPolicy.header P then offered slot fixed else Chain.firstValues fixed n := by
  rw [Chain.firstValues_append, firstValues_slotHeader, offered]
  by_cases own : n = HeaderPolicy.header P
  · rw [if_pos own, if_pos own, own]
    cases chosen slot <;> rfl
  · rw [if_neg own, if_neg own, if_pos rfl]

/-- Each policy header hides the fixed ones of its name, and only those. -/
theorem firstValues_build (d : Declaration) (n : Name) :
    Chain.firstValues d.build.headers n =
      if d.disabled then []
      else if n = EmbedderPolicy.name then offered d.embedder d.fixed
      else if n = ReferrerPolicy.name then offered d.referrer d.fixed
      else Chain.firstValues d.fixed n := by
  have embedder := firstValues_slotHeader_append d.embedder
    ((slotHeader d.referrer).toList ++ d.fixed) n
  have referrer := firstValues_slotHeader_append d.referrer d.fixed
  have apart : HeaderPolicy.header EmbedderPolicy ≠ HeaderPolicy.header ReferrerPolicy := by decide
  have behind : offered d.embedder ((slotHeader d.referrer).toList ++ d.fixed) =
      offered d.embedder d.fixed := by
    rw [offered, offered, referrer, if_neg apart]
  rw [headers_build]
  split
  · rfl
  · rw [List.append_assoc, embedder, behind, referrer]
    rfl

theorem firstValues_embedder (d : Declaration) :
    Chain.firstValues d.build.headers EmbedderPolicy.name =
      if d.disabled then [] else offered d.embedder d.fixed :=
  firstValues_build d _

theorem firstValues_referrer (d : Declaration) :
    Chain.firstValues d.build.headers ReferrerPolicy.name =
      if d.disabled then [] else offered d.referrer d.fixed :=
  firstValues_build d _

end Declaration
end SecureHeaders
