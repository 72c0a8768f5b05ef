import SecureHeaders.Proofs.ConfigMeaning
/-!
Which faults are reported, said of each position alone: the check walks the custom headers with the
names it has seen, but a header is a duplicate exactly if some valid header in front of it has its
name and no section is in charge of that. All faults come in the order of the document, and a
configuration without any is the one that is accepted.
-/

namespace SecureHeaders.Config

open Header (Name)
open Net (SocketAddress)

/-- The custom header at a position is one, and `n` is its name: the given one in lower case. -/
def NamedAt (l : List CustomHeader) (i : Nat) (n : Name) : Prop :=
  ∃ c h, l[i]? = some c ∧ c.header = .ok h ∧ n.text = Header.lower c.name

def HasSection (n : Name) : Prop :=
  n.text = "cross-origin-embedder-policy" ∨ n.text = "referrer-policy"

/-- The faults of the custom header at a position, of which it has at most one. -/
inductive FaultOf (l : List CustomHeader) (i : Nat) : Fault → Prop
  | invalid {e : HeaderError} : InvalidAt l i e → FaultOf l i (.invalidHeader i e)
  | managed {n : Name} : NamedAt l i n → HasSection n → FaultOf l i (.managedHeader i n)
  | duplicate {n : Name} : NamedAt l i n → ¬ HasSection n → (∃ j < i, NamedAt l j n) →
      FaultOf l i (.duplicateHeader i n)

theorem mem_managedNames_iff {n : Name} : n ∈ managedNames ↔ HasSection n := by
  simp only [managedNames, List.mem_cons, List.not_mem_nil, or_false, Name.ext_iff]
  rfl

theorem namedAt_iff {l : List CustomHeader} {i : Nat} {n : Name} :
    NamedAt l i n ↔ ∃ c h, l[i]? = some c ∧ c.header = .ok h ∧ h.name = n := by
  constructor
  · rintro ⟨c, h, there, read, named⟩
    have own := (CustomHeader.header_eq_ok read).1
    exact ⟨c, h, there, read, Name.ext (own.trans named.symm)⟩
  · rintro ⟨c, h, there, read, rfl⟩
    exact ⟨c, h, there, read, (CustomHeader.header_eq_ok read).1⟩

theorem namedAt_iff_of_read {l : List CustomHeader} {i : Nat} {c : CustomHeader} {h : Header}
    (there : l[i]? = some c) (read : c.header = .ok h) {n : Name} :
    NamedAt l i n ↔ h.name = n := by
  rw [namedAt_iff]
  constructor
  · rintro ⟨c', h', there', read', same⟩
    cases there.symm.trans there'
    cases read.symm.trans read'
    exact same
  · intro same
    exact ⟨c, h, there, read, same⟩

theorem mem_headerNames_take_iff {l : List CustomHeader} {i : Nat} {n : Name} :
    n ∈ headerNames (l.take i) ↔ ∃ j < i, NamedAt l j n := by
  rw [mem_headerNames_iff]
  constructor
  · rintro ⟨c, member, h, read, same⟩
    obtain ⟨j, there⟩ := List.mem_iff_getElem?.1 member
    rw [List.getElem?_take] at there
    split at there
    · rename_i before
      exact ⟨j, before, namedAt_iff.2 ⟨c, h, there, read, same⟩⟩
    · cases there
  · rintro ⟨j, before, named⟩
    obtain ⟨c, h, there, read, same⟩ := namedAt_iff.1 named
    refine ⟨c, List.mem_iff_getElem?.2 ⟨j, ?_⟩, h, read, same⟩
    rw [List.getElem?_take, if_pos before]
    exact there

theorem faultAt_of_none {l : List CustomHeader} {i : Nat} (beyond : l[i]? = none) :
    faultAt l i = none := by
  rw [faultAt, beyond]
  rfl

theorem faultAt_of_some {l : List CustomHeader} {i : Nat} {c : CustomHeader}
    (there : l[i]? = some c) : faultAt l i = faultBehind (headerNames (l.take i)) i c := by
  rw [faultAt, there]
  rfl

theorem FaultOf.faultAt_eq {l : List CustomHeader} {i : Nat} {f : Fault} (fault : FaultOf l i f) :
    faultAt l i = some f := by
  cases fault with
  | invalid bad =>
      obtain ⟨c, there, read⟩ := bad
      rw [faultAt_of_some there]
      simp only [faultBehind, read]
  | managed named own =>
      obtain ⟨c, h, there, read, rfl⟩ := namedAt_iff.1 named
      rw [faultAt_of_some there]
      simp only [faultBehind, read, mem_managedNames_iff.2 own, if_true]
  | duplicate named free earlier =>
      obtain ⟨c, h, there, read, rfl⟩ := namedAt_iff.1 named
      have unmanaged : h.name ∉ managedNames := fun own => free (mem_managedNames_iff.1 own)
      rw [faultAt_of_some there]
      simp only [faultBehind, read, unmanaged, mem_headerNames_take_iff.2 earlier, if_true,
        if_false]

theorem faultAt_eq_some_iff {l : List CustomHeader} {i : Nat} {f : Fault} :
    faultAt l i = some f ↔ FaultOf l i f := by
  refine ⟨?_, FaultOf.faultAt_eq⟩
  intro found
  cases there : l[i]? with
  | none =>
      rw [faultAt_of_none there] at found
      cases found
  | some c =>
      rw [faultAt_of_some there] at found
      cases read : c.header with
      | error e =>
          simp only [faultBehind, read, Option.some.injEq] at found
          subst found
          exact FaultOf.invalid ⟨c, there, read⟩
      | ok h =>
          have named := (namedAt_iff_of_read there read).2 rfl
          simp only [faultBehind, read] at found
          split at found
          · rename_i own
            cases found
            exact FaultOf.managed named (mem_managedNames_iff.1 own)
          · rename_i free
            split at found
            · rename_i earlier
              cases found
              exact FaultOf.duplicate named (fun own => free (mem_managedNames_iff.2 own))
                (mem_headerNames_take_iff.1 earlier)
            · cases found

theorem addressFaults_eq (c : Config) :
    addressFaults c =
      (if SocketAddress.parse? c.listener.bindAddress = none then
        [.invalidAddress .bind c.listener.bindAddress] else [])
      ++ if c.observability.metricsEnabled = true ∧
          SocketAddress.parse? c.observability.metricsAddress = none then
        [.invalidAddress .metrics c.observability.metricsAddress] else [] := by
  unfold addressFaults isSocketAddress
  cases SocketAddress.parse? c.listener.bindAddress <;>
    cases SocketAddress.parse? c.observability.metricsAddress <;>
      cases c.observability.metricsEnabled <;> rfl

/-- Addresses first, then the timeout, then the custom headers in order with at most one fault
each; and a configuration is accepted exactly if that makes no fault. -/
theorem faults_by_position (c : Config) :
    c.faults =
      (if SocketAddress.parse? c.listener.bindAddress = none then
        [.invalidAddress .bind c.listener.bindAddress] else [])
      ++ (if c.observability.metricsEnabled = true ∧
          SocketAddress.parse? c.observability.metricsAddress = none then
        [.invalidAddress .metrics c.observability.metricsAddress] else [])
      ++ (if c.timeouts.requestSecs = 0 then [.zeroTimeout] else [])
      ++ (List.range c.headers.custom.length).filterMap (faultAt c.headers.custom) ∧
    (∀ i f, faultAt c.headers.custom i = some f ↔ FaultOf c.headers.custom i f) ∧
    (accept c = .ok c ↔ c.faults = []) ∧
    (c.faults ≠ [] → accept c = .error (.invalid c.faults)) := by
  refine ⟨?_, ?_, ?_, accept_of_faults_ne_nil⟩
  · rw [faults, addressFaults_eq, customFaults_eq, timeoutFaults]
  · intro i f
    exact faultAt_eq_some_iff
  · rw [accept_eq_ok_iff]
    exact and_iff_right rfl

end SecureHeaders.Config
