import SecureHeaders.Proofs.BuiltChain
import SecureHeaders.Proofs.CheckedConfig
/-!
Custom headers in another order. The check finds the same faults, but for their order and the
numbers they carry, since of several headers with one name it spares whichever comes first. Where
there are no faults the chain leaves the same values on every message.
-/

namespace SecureHeaders

open Config (CustomHeader readCustomHeaders)
open Header (Fields Name)

namespace Chain

theorem firstValues_perm {a b : List Header} (reordered : a.Perm b)
    (distinct : (b.map Header.name).Nodup) (n : Name) : firstValues a n = firstValues b n := by
  have distinct' : (a.map Header.name).Nodup := (reordered.map Header.name).nodup_iff.2 distinct
  by_cases listed : ∃ h ∈ b, h.name = n
  · obtain ⟨h, member, rfl⟩ := listed
    rw [firstValues_of_mem distinct member,
      firstValues_of_mem distinct' (reordered.mem_iff.2 member)]
  · have missing : ∀ h ∈ b, h.name ≠ n := fun h member same => listed ⟨h, member, same⟩
    rw [firstValues_eq_nil_iff.2 missing, firstValues_eq_nil_iff]
    intro h member
    exact missing h (reordered.mem_iff.1 member)

/-- What stands first under each name decides what a chain does, but for the order of the names it
reports. -/
theorem writeAll_of_firstValues_eq {a b : Chain}
    (same : ∀ n, firstValues a.headers n = firstValues b.headers n) (m : Fields) :
    (∀ n, (a.writeAll m).1.values n = (b.writeAll m).1.values n) ∧
      (a.writeAll m).2.Perm (b.writeAll m).2 := by
  have values : ∀ n, (a.writeAll m).1.values n = (b.writeAll m).1.values n := by
    intro n
    have first := same n
    simp only [headers] at first
    rw [writeAll, writeAll, values_run, values_run, first]
  refine ⟨values, ?_⟩
  apply (List.perm_ext_iff_of_nodup (nodup_written_run _ m) (nodup_written_run _ m)).2
  intro n
  rw [mem_written_run, mem_written_run, Fields.contains_iff, Fields.contains_iff]
  exact and_congr_right fun _ => not_congr (iff_of_eq (congrArg (· = []) (values n)))

end Chain

namespace Config

/-- The fault, said of the custom header with another number. -/
def Fault.renumber (index : Nat) : Fault → Fault
  | .invalidHeader _ source => .invalidHeader index source
  | .duplicateHeader _ name => .duplicateHeader index name
  | .managedHeader _ name => .managedHeader index name
  | other => other

def Fault.manages (n : Name) : Fault → Bool
  | .managedHeader _ name => name = n
  | _ => false

def Fault.repeats (n : Name) : Fault → Bool
  | .duplicateHeader _ name => name = n
  | _ => false

def Fault.isInvalidHeader : Fault → Bool
  | .invalidHeader _ _ => true
  | _ => false

theorem faultBehind_renumber (seen : List Name) (index other : Nat) (c : CustomHeader) :
    (faultBehind seen index c).map (Fault.renumber other) = faultBehind seen other c := by
  cases read : c.header with
  | error e => simp only [faultBehind, read, Option.map_some, Fault.renumber]
  | ok h =>
      simp only [faultBehind, read]
      split
      · rfl
      · split <;> rfl

theorem renumber_customFaults_cons (index : Nat) (seen : List Name) (c : CustomHeader)
    (rest : List CustomHeader) :
    (customFaults index seen (c :: rest)).map (Fault.renumber 0) =
      (faultBehind seen 0 c).toList ++
        (customFaults (index + 1) (remember seen c) rest).map (Fault.renumber 0) := by
  rw [customFaults_cons, List.map_append, ← Option.toList_map, faultBehind_renumber]

theorem customFaults_congr {seen seen' : List Name}
    (alike : ∀ n, n ∉ managedNames → (n ∈ seen ↔ n ∈ seen')) (index : Nat)
    (l : List CustomHeader) : customFaults index seen l = customFaults index seen' l := by
  induction l generalizing index seen seen' with
  | nil => rfl
  | cons c rest ih =>
      have next : ∀ n, n ∉ managedNames → (n ∈ remember seen c ↔ n ∈ remember seen' c) := by
        intro n free
        rw [mem_remember, mem_remember, alike n free]
      rw [customFaults_cons, customFaults_cons, faultBehind_congr alike, ih next]

theorem mem_remember_swap {seen : List Name} {a b : CustomHeader} {n : Name} :
    n ∈ remember (remember seen a) b ↔ n ∈ remember (remember seen b) a := by
  simp only [mem_remember]
  exact or_right_comm

/-- What makes a header faulty is still there when more names have been seen. -/
theorem faultBehind_remember_of_fault {seen : List Name} {index : Nat} {c : CustomHeader}
    (faulty : faultBehind seen index c ≠ none) (other : CustomHeader) :
    faultBehind (remember seen other) index c = faultBehind seen index c := by
  cases read : c.header with
  | error e => simp only [faultBehind, read]
  | ok h =>
      by_cases managed : h.name ∈ managedNames
      · simp only [faultBehind, read, managed, if_true]
      · have old : h.name ∈ seen := by
          apply Decidable.byContradiction
          intro fresh
          exact faulty ((faultBehind_eq_none_iff read).2 ⟨managed, fresh⟩)
        have still : h.name ∈ remember seen other := mem_remember.2 (Or.inl old)
        simp only [faultBehind, read, managed, old, still, if_true, if_false]

theorem faultBehind_remember_of_sound {seen : List Name} {index : Nat} {a b : CustomHeader}
    (first : faultBehind seen index a = none) (second : faultBehind seen index b = none) :
    faultBehind (remember seen a) index b = faultBehind (remember seen b) index a := by
  obtain ⟨ha, reada, seena⟩ := remember_of_sound first
  obtain ⟨hb, readb, seenb⟩ := remember_of_sound second
  obtain ⟨freea, fresha⟩ := (faultBehind_eq_none_iff reada).1 first
  obtain ⟨freeb, freshb⟩ := (faultBehind_eq_none_iff readb).1 second
  -- If they share their name the second one is a duplicate, whichever that is.
  by_cases same : ha.name = hb.name
  · simp only [faultBehind, reada, readb, seena, seenb, freeb, same, List.mem_cons, true_or,
      if_true, if_false]
  · have apart : hb.name ≠ ha.name := fun e => same e.symm
    simp only [faultBehind, reada, readb, seena, seenb, freea, freeb, fresha, freshb, same, apart,
      List.mem_cons, or_self, if_false]

theorem faultBehind_swap_of_fault {seen : List Name} {index : Nat} {a : CustomHeader}
    (faulty : faultBehind seen index a ≠ none) (b : CustomHeader) :
    ((faultBehind seen index a).toList ++ (faultBehind (remember seen a) index b).toList).Perm
      ((faultBehind seen index b).toList ++
        (faultBehind (remember seen b) index a).toList) := by
  rw [remember_of_fault faulty, faultBehind_remember_of_fault faulty]
  exact List.perm_append_comm

theorem faultBehind_swap (seen : List Name) (index : Nat) (a b : CustomHeader) :
    ((faultBehind seen index a).toList ++ (faultBehind (remember seen a) index b).toList).Perm
      ((faultBehind seen index b).toList ++
        (faultBehind (remember seen b) index a).toList) := by
  by_cases first : faultBehind seen index a = none
  · by_cases second : faultBehind seen index b = none
    · rw [first, second, faultBehind_remember_of_sound first second]
    · exact (faultBehind_swap_of_fault second a).symm
  · exact faultBehind_swap_of_fault first b

theorem renumber_customFaults_perm {a b : List CustomHeader} (reordered : a.Perm b) (index : Nat)
    (seen : List Name) :
    ((customFaults index seen a).map (Fault.renumber 0)).Perm
      ((customFaults index seen b).map (Fault.renumber 0)) := by
  -- On how the headers are reordered, for all names that have been seen in front of them.
  induction reordered generalizing index seen with
  | nil => exact List.Perm.refl _
  | cons c reordered ih =>
      rw [renumber_customFaults_cons, renumber_customFaults_cons]
      exact (ih _ _).append_left _
  | swap x y rest =>
      simp only [renumber_customFaults_cons, ← List.append_assoc]
      -- Whichever comes first, the rest is walked with the same names seen.
      rw [customFaults_congr fun n _ => mem_remember_swap]
      exact (faultBehind_swap seen 0 y x).append_right _
  | trans first second ihFirst ihSecond => exact (ihFirst _ _).trans (ihSecond _ _)

theorem renumber_faults_perm (c : Config) {custom : List CustomHeader}
    (reordered : custom.Perm c.headers.custom) :
    ((c.withCustom custom).faults.map (Fault.renumber 0)).Perm
      (c.faults.map (Fault.renumber 0)) := by
  rw [faults_withCustom]
  simp only [faults, List.map_append]
  exact (renumber_customFaults_perm reordered 0 []).append_left _

/-- What is counted without regard to numbers is the same in every order. -/
theorem countP_faults_perm (c : Config) {custom : List CustomHeader}
    (reordered : custom.Perm c.headers.custom) {p : Fault → Bool}
    (unnumbered : ∀ f : Fault, p (f.renumber 0) = p f) :
    (c.withCustom custom).faults.countP p = c.faults.countP p := by
  have same := (renumber_faults_perm c reordered).countP_eq p
  rw [List.countP_map, List.countP_map] at same
  have plain : p ∘ Fault.renumber 0 = p := funext unnumbered
  rw [plain] at same
  exact same

theorem readCustomHeaders_perm {a b : List CustomHeader} (reordered : a.Perm b)
    {hs hs' : List Header} (reada : readCustomHeaders a = .ok hs)
    (readb : readCustomHeaders b = .ok hs') : hs.Perm hs' := by
  have marked := reordered.map CustomHeader.header
  rw [readCustomHeaders_eq_ok_iff.1 reada, readCustomHeaders_eq_ok_iff.1 readb] at marked
  have plain : Except.toOption ∘ (Except.ok : Header → Except HeaderError Header) = some := rfl
  have bare := marked.filterMap Except.toOption
  rw [List.filterMap_map, List.filterMap_map, plain, List.filterMap_some,
    List.filterMap_some] at bare
  exact bare

theorem Headers.firstValues_declaration_congr (c : Headers) {a b : List Header}
    (same : ∀ n, Chain.firstValues a n = Chain.firstValues b n) (n : Name) :
    Chain.firstValues (c.declaration a).build.headers n =
      Chain.firstValues (c.declaration b).build.headers n := by
  have embedder : Declaration.offered c.embedder.slot a = Declaration.offered c.embedder.slot b :=
    Declaration.offered_congr _ same
  have referrer : Declaration.offered c.referrer.slot a = Declaration.offered c.referrer.slot b :=
    Declaration.offered_congr _ same
  rw [Declaration.firstValues_build, Declaration.firstValues_build]
  simp only [declaration, embedder, referrer, same]
  rfl

end Config

/-- Custom headers in another order: the check finds as many faults of each kind, with each name;
and a configuration without any leaves the same values on every message. -/
theorem reordered_keeps_faults_and_values (c : Config) {custom : List CustomHeader}
    (reordered : custom.Perm c.headers.custom) :
    ((c.withCustom custom).faults = [] ↔ c.faults = []) ∧
    (∀ n, (c.withCustom custom).faults.countP (Config.Fault.manages n) =
      c.faults.countP (Config.Fault.manages n)) ∧
    (∀ n, (c.withCustom custom).faults.countP (Config.Fault.repeats n) =
      c.faults.countP (Config.Fault.repeats n)) ∧
    (c.withCustom custom).faults.countP Config.Fault.isInvalidHeader =
      c.faults.countP Config.Fault.isInvalidHeader ∧
    (c.faults = [] →
      ∃ d d', c.headers.declare = .ok d ∧ (c.withCustom custom).headers.declare = .ok d' ∧
        ∀ m, (∀ n, (d'.build.writeAll m).1.values n = (d.build.writeAll m).1.values n) ∧
          (d'.build.writeAll m).2.Perm (d.build.writeAll m).2) := by
  have accepted : (c.withCustom custom).faults = [] ↔ c.faults = [] := by
    have same := (Config.renumber_faults_perm c reordered).length_eq
    rw [List.length_map, List.length_map] at same
    rw [← List.length_eq_zero_iff, ← List.length_eq_zero_iff, same]
  refine ⟨accepted, ?manages, ?repeats, ?invalid, ?written⟩
  case manages =>
    intro n
    exact Config.countP_faults_perm c reordered fun f => by cases f <;> rfl
  case repeats =>
    intro n
    exact Config.countP_faults_perm c reordered fun f => by cases f <;> rfl
  case invalid => exact Config.countP_faults_perm c reordered fun f => by cases f <;> rfl
  case written =>
    intro sound
    obtain ⟨fixed, checked⟩ := Config.checked_of_faults_eq_nil sound
    obtain ⟨fixed', checked'⟩ := Config.checked_of_faults_eq_nil (accepted.2 sound)
    have moved := Config.readCustomHeaders_perm reordered checked'.read checked.read
    refine ⟨_, _, Config.Headers.declare_of_read checked.read,
      Config.Headers.declare_of_read checked'.read, ?_⟩
    intro m
    apply Chain.writeAll_of_firstValues_eq
    exact c.headers.firstValues_declaration_congr (Chain.firstValues_perm moved checked.distinct)

theorem reordered_keeps_faults_and_values_of_swap :
    let c : Config := { headers := { custom := [⟨"Vary", ["Origin"]⟩, ⟨"X-Robots-Tag",
      ["noindex", "nofollow"]⟩] } }
    let custom : List CustomHeader := [⟨"X-Robots-Tag", ["noindex", "nofollow"]⟩,
      ⟨"Vary", ["Origin"]⟩]
    custom.Perm c.headers.custom ∧ c.faults = [] ∧ (c.withCustom custom).faults = [] ∧
      ∃ d d', c.headers.declare = .ok d ∧ (c.withCustom custom).headers.declare = .ok d' ∧
        ∀ m, (∀ n, (d'.build.writeAll m).1.values n = (d.build.writeAll m).1.values n) ∧
          (d'.build.writeAll m).2.Perm (d.build.writeAll m).2 := by
  intro c custom
  have reordered : custom.Perm c.headers.custom := List.Perm.swap _ _ []
  have sound : c.faults = [] := by decide
  have kept := reordered_keeps_faults_and_values c reordered
  exact ⟨reordered, sound, kept.1.2 sound, kept.2.2.2.2 sound⟩

end SecureHeaders
