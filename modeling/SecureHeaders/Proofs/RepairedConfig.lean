import SecureHeaders.Proofs.BuiltChain
import SecureHeaders.Proofs.CheckedConfig
/-!
Repairing a configuration by leaving out every custom header that a fault is about. What is left
has only the faults that are about none. Where all that was left out were duplicates the chain does
the same on every message: a duplicate would never have been written.
-/

namespace SecureHeaders

open Header (Fields Name)

namespace Config

/-- The number of the custom header that a fault is about. -/
def Fault.index? : Fault → Option Nat
  | .invalidAddress _ _ => none
  | .zeroTimeout => none
  | .invalidHeader index _ => some index
  | .duplicateHeader index _ => some index
  | .managedHeader index _ => some index

def Fault.IsDuplicate : Fault → Prop
  | .duplicateHeader _ _ => True
  | _ => False

/-- The custom headers, but for those with these numbers. -/
def withoutNumbers (numbers : List Nat) (l : List CustomHeader) : List CustomHeader :=
  (l.zipIdx.filter fun x => x.2 ∉ numbers).map Prod.fst

end Config

def Config.repaired (c : Config) : Config :=
  let flagged := c.faults.filterMap Config.Fault.index?
  c.withCustom (Config.withoutNumbers flagged c.headers.custom)

namespace Config

/-- The custom headers without a fault, from the one with number `index` on. -/
def spared : Nat → List Name → List CustomHeader → List CustomHeader
  | _, _, [] => []
  | index, seen, c :: rest =>
    if faultBehind seen index c = none then c :: spared (index + 1) (remember seen c) rest
    else spared (index + 1) seen rest

/-- The number of a header does not decide whether it has a fault. -/
theorem faultBehind_eq_none_congr {seen : List Name} {index other : Nat} {c : CustomHeader}
    (sound : faultBehind seen index c = none) : faultBehind seen other c = none := by
  cases read : c.header with
  | error e => simp [faultBehind, read] at sound
  | ok h => exact (faultBehind_eq_none_iff read).2 ((faultBehind_eq_none_iff read).1 sound)

theorem customFaults_spared (l : List CustomHeader) (seen : List Name) (index other : Nat) :
    customFaults other seen (spared index seen l) = [] := by
  -- The spared headers are walked with the same names seen, but under other numbers.
  induction l generalizing seen index other with
  | nil => rfl
  | cons c rest ih =>
      rw [spared]
      split
      · rename_i sound
        rw [customFaults_cons, faultBehind_eq_none_congr sound]
        exact ih _ _ _
      · exact ih _ _ _

theorem index?_of_faultBehind {seen : List Name} {index : Nat} {c : CustomHeader} {f : Fault}
    (fault : faultBehind seen index c = some f) : f.index? = some index := by
  unfold faultBehind at fault
  split at fault
  · cases fault
    rfl
  · split at fault
    · cases fault
      rfl
    · split at fault
      · cases fault
        rfl
      · cases fault

theorem index?_of_customFaults (l : List CustomHeader) (seen : List Name) (index : Nat) :
    ∀ f ∈ customFaults index seen l, ∃ i, f.index? = some i ∧ index ≤ i := by
  induction l generalizing seen index with
  | nil => exact fun f member => nomatch member
  | cons c rest ih =>
      intro f member
      rw [customFaults_cons, List.mem_append, Option.mem_toList] at member
      rcases member with here | later
      · exact ⟨index, index?_of_faultBehind here, Nat.le_refl _⟩
      · obtain ⟨i, known, bound⟩ := ih _ _ f later
        exact ⟨i, known, Nat.le_of_succ_le bound⟩

theorem le_of_mem_flagged {l : List CustomHeader} {seen : List Name} {index i : Nat}
    (flagged : i ∈ (customFaults index seen l).filterMap Fault.index?) : index ≤ i := by
  obtain ⟨f, member, known⟩ := List.mem_filterMap.1 flagged
  obtain ⟨j, own, bound⟩ := index?_of_customFaults l seen index f member
  cases known.symm.trans own
  exact bound

theorem flagged_cons (c : CustomHeader) (rest : List CustomHeader) (seen : List Name)
    (index : Nat) :
    (customFaults index seen (c :: rest)).filterMap Fault.index? =
      (if faultBehind seen index c = none then [] else [index])
        ++ (customFaults (index + 1) (remember seen c) rest).filterMap Fault.index? := by
  rw [customFaults_cons, List.filterMap_append]
  congr 1
  cases fault : faultBehind seen index c with
  | none => rfl
  | some f => simp [index?_of_faultBehind fault]

/-- Leaving out the numbers of the faults leaves what the walk spares. -/
theorem filter_zipIdx_eq_spared (l : List CustomHeader) (seen : List Name) (index : Nat) :
    ((l.zipIdx index).filter fun x =>
        x.2 ∉ (customFaults index seen l).filterMap Fault.index?).map Prod.fst =
      spared index seen l := by
  induction l generalizing seen index with
  | nil => rfl
  | cons c rest ih =>
      -- The numbers still to come are above that of the header in front, so its fault leaves out
      -- none of them.
      have later : (rest.zipIdx (index + 1)).filter (fun x =>
          x.2 ∉ (customFaults index seen (c :: rest)).filterMap Fault.index?) =
          (rest.zipIdx (index + 1)).filter fun x =>
            x.2 ∉ (customFaults (index + 1) (remember seen c) rest).filterMap Fault.index? := by
        apply List.filter_congr
        intro x member
        have above : index ≠ x.2 := by
          have bound := (List.mem_zipIdx member).1
          omega
        rw [flagged_cons]
        split <;> simp [above.symm]
      have fresh : index ∉
          (customFaults (index + 1) (remember seen c) rest).filterMap Fault.index? := by
        intro flagged
        exact absurd (le_of_mem_flagged flagged) (Nat.not_succ_le_self index)
      rw [List.zipIdx_cons, List.filter_cons, later, spared]
      split
      · rename_i kept
        have sound : faultBehind seen index c = none := by
          apply Decidable.byContradiction
          intro faulty
          rw [flagged_cons, if_neg faulty] at kept
          simp at kept
        rw [if_pos sound, List.map_cons, ih]
      · rename_i dropped
        have faulty : faultBehind seen index c ≠ none := by
          intro sound
          apply dropped
          rw [flagged_cons, if_pos sound, List.nil_append]
          exact decide_eq_true fresh
        rw [if_neg faulty, ih, remember_of_fault faulty]

theorem index?_of_early {c : Config} {f : Fault} (member : f ∈ addressFaults c ++ timeoutFaults c) :
    f.index? = none := by
  rw [List.mem_append, addressFaults, List.mem_append, timeoutFaults] at member
  rcases member with (bind | metrics) | timeout
  · split at bind
    · cases bind
    · rw [List.mem_singleton.1 bind]
      rfl
  · split at metrics
    · rw [List.mem_singleton.1 metrics]
      rfl
    · cases metrics
  · split at timeout
    · rw [List.mem_singleton.1 timeout]
      rfl
    · cases timeout

theorem flagged_eq (c : Config) :
    c.faults.filterMap Fault.index? =
      (customFaults 0 [] c.headers.custom).filterMap Fault.index? := by
  rw [faults, List.filterMap_append, List.filterMap_eq_nil_iff.2 fun f => index?_of_early]
  rfl

theorem custom_repaired (c : Config) :
    c.repaired.headers.custom = spared 0 [] c.headers.custom := by
  rw [← filter_zipIdx_eq_spared]
  simp only [repaired, withCustom, withoutNumbers, flagged_eq]

theorem faults_repaired (c : Config) :
    c.repaired.faults = c.faults.filter fun f => f.index? = none := by
  have early : (addressFaults c ++ timeoutFaults c).filter (fun f => f.index? = none) =
      addressFaults c ++ timeoutFaults c :=
    List.filter_eq_self.2 fun f member => decide_eq_true (index?_of_early member)
  have custom : (customFaults 0 [] c.headers.custom).filter (fun f => f.index? = none) = [] := by
    apply List.filter_eq_nil_iff.2
    intro f member
    obtain ⟨i, known, -⟩ := index?_of_customFaults _ _ _ f member
    simp [known]
  rw [faults, faults, List.filter_append, early, custom, custom_repaired, customFaults_spared]
  rfl

theorem duplicate_of_faultBehind {seen : List Name} {index : Nat} {c : CustomHeader} {f : Fault}
    (fault : faultBehind seen index c = some f) (duplicate : f.IsDuplicate) :
    ∃ h, c.header = .ok h ∧ h.name ∈ seen := by
  cases read : c.header with
  | error e =>
      simp only [faultBehind, read, Option.some.injEq] at fault
      subst fault
      exact duplicate.elim
  | ok h =>
      simp only [faultBehind, read] at fault
      split at fault
      · cases fault
        exact duplicate.elim
      · split at fault
        · rename_i old
          exact ⟨h, rfl, old⟩
        · cases fault

theorem run_spared (l : List CustomHeader) (seen : List Name) (index : Nat)
    (only : ∀ f ∈ customFaults index seen l, f.IsDuplicate) :
    ∃ hs hs', readCustomHeaders l = .ok hs ∧ readCustomHeaders (spared index seen l) = .ok hs' ∧
      ∀ m : Fields, (∀ n ∈ seen, m.contains n = true) →
        Chain.run (hs'.map Writer.fixed) m = Chain.run (hs.map Writer.fixed) m := by
  -- What carries the induction is that the message has every name seen so far, so the writer of a
  -- duplicate finds its name taken.
  induction l generalizing seen index with
  | nil => exact ⟨[], [], rfl, rfl, fun m _ => rfl⟩
  | cons c rest ih =>
      rw [customFaults_cons] at only
      have later := fun f member => only f (List.mem_append_right _ member)
      cases fault : faultBehind seen index c with
      | none =>
          obtain ⟨h, read, next⟩ := remember_of_sound fault
          obtain ⟨hs, hs', all, kept, same⟩ := ih _ _ later
          refine ⟨h :: hs, h :: hs', ?_, ?_, ?_⟩
          · rw [readCustomHeaders_cons_ok read, all]
            rfl
          · rw [spared, if_pos fault, readCustomHeaders_cons_ok read, kept]
            rfl
          · intro m taken
            have computed : (Writer.fixed h).compute = some h := rfl
            have still : ∀ n ∈ remember seen c, ((Writer.fixed h).write m).1.contains n = true := by
              intro n member
              rw [Writer.contains_write computed, Bool.or_eq_true, decide_eq_true_eq]
              rw [next] at member
              rcases List.mem_cons.1 member with own | old
              · exact Or.inr own
              · exact Or.inl (taken n old)
            rw [List.map_cons, List.map_cons, Chain.run_cons, Chain.run_cons, same _ still]
      | some f =>
          have duplicate : f.IsDuplicate := only f (by simp [fault])
          obtain ⟨h, read, old⟩ := duplicate_of_faultBehind fault duplicate
          have faulty : faultBehind seen index c ≠ none := by
            rw [fault]
            exact Option.some_ne_none f
          rw [remember_of_fault faulty] at later
          obtain ⟨hs, hs', all, kept, same⟩ := ih _ _ later
          refine ⟨h :: hs, hs', ?_, ?_, ?_⟩
          · rw [readCustomHeaders_cons_ok read, all]
            rfl
          · rw [spared, if_neg faulty, kept]
          · intro m taken
            have computed : (Writer.fixed h).compute = some h := rfl
            rw [List.map_cons, Chain.run_cons, Writer.write_of_contains computed (taken _ old),
              same m taken]
            rfl

theorem Headers.writeAll_declaration_congr {a b : List Header}
    (same : ∀ m, Chain.run (a.map Writer.fixed) m = Chain.run (b.map Writer.fixed) m)
    (c : Headers) (m : Fields) :
    (c.declaration a).build.writeAll m = (c.declaration b).build.writeAll m := by
  cases on : c.enabled with
  | false => simp only [Declaration.build, declaration, on, Bool.not_false, if_true]
  | true =>
      simp only [Declaration.build, declaration, on, Bool.not_true, Bool.false_eq_true, if_false]
      simp only [Chain.writeAll, Declaration.writers, Chain.run_append, same]

end Config

/-- Leaving out the custom headers that a fault is about repairs a configuration; and where these
faults are all duplicates its chain leaves the same message and reports the same names. -/
theorem repaired_keeps_other_faults (c : Config) :
    c.repaired.faults = c.faults.filter (fun f => f.index? = none) ∧
    ((∀ f ∈ c.faults, f.index? ≠ none → f.IsDuplicate) →
      ∃ d d', c.headers.declare = .ok d ∧ c.repaired.headers.declare = .ok d' ∧
        ∀ m, d'.build.writeAll m = d.build.writeAll m) := by
  refine ⟨Config.faults_repaired c, ?_⟩
  intro only
  have custom : ∀ f ∈ Config.customFaults 0 [] c.headers.custom, f.IsDuplicate := by
    intro f member
    apply only f (List.mem_append_right _ member)
    obtain ⟨i, known, -⟩ := Config.index?_of_customFaults _ _ _ f member
    rw [known]
    exact Option.some_ne_none i
  obtain ⟨hs, hs', all, kept, same⟩ := Config.run_spared _ _ _ custom
  rw [← Config.custom_repaired] at kept
  refine ⟨_, _, Config.Headers.declare_of_read all, Config.Headers.declare_of_read kept, ?_⟩
  intro m
  exact Config.Headers.writeAll_declaration_congr
    (fun m => same m fun n member => nomatch member) c.headers m

theorem repaired_keeps_other_faults_of_duplicate :
    let c : Config := { timeouts := { requestSecs := 0 }, headers := { custom :=
      [⟨"X-Frame-Options", ["DENY"]⟩, ⟨"x-frame-options", ["SAMEORIGIN"]⟩, ⟨"Vary", ["Origin"]⟩] } }
    (∃ n, c.faults = [.zeroTimeout, .duplicateHeader 1 n]) ∧ c.repaired.faults = [.zeroTimeout] ∧
      ∃ d d', c.headers.declare = .ok d ∧ c.repaired.headers.declare = .ok d' ∧
        ∀ m, d'.build.writeAll m = d.build.writeAll m := by
  intro c
  obtain ⟨left, same⟩ := repaired_keeps_other_faults c
  have faults : c.faults = [.zeroTimeout, .duplicateHeader 1 ⟨"x-frame-options", by decide⟩] := by
    decide
  refine ⟨⟨_, faults⟩, ?_, same ?_⟩
  · rw [left, faults]
    rfl
  · rw [faults]
    intro f member numbered
    rcases List.mem_cons.1 member with rfl | duplicate
    · exact absurd rfl numbered
    · rw [List.mem_singleton.1 duplicate]
      trivial

end SecureHeaders
