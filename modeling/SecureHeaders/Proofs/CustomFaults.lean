import SecureHeaders.Config.Validate
/-!
Faults of custom headers by position. The check walks the list with the names it has seen; here the
fault at a position is said from the headers in front of it alone, and the walk is shown to report
exactly these. The same for the translation, which stops at its first invalid header.
-/

namespace SecureHeaders.Config

open Header (Name)

/-- The names of the custom headers that are headers at all. -/
def headerNames (l : List CustomHeader) : List Name :=
  l.filterMap fun c => c.header.toOption.map Header.name

/-- The fault of a custom header with number `index`, if the names in `taken` are in use. -/
def faultBehind (taken : List Name) (index : Nat) (c : CustomHeader) : Option Fault :=
  match c.header with
  | .error source => some (.invalidHeader index source)
  | .ok h =>
    if h.name ∈ managedNames then some (.managedHeader index h.name)
    else if h.name ∈ taken then some (.duplicateHeader index h.name)
    else none

/-- The fault of the custom header at a position, if it has one. -/
def faultAt (l : List CustomHeader) (i : Nat) : Option Fault :=
  l[i]?.bind (faultBehind (headerNames (l.take i)) i)

/-- The names seen after one more custom header. -/
def remember (seen : List Name) (c : CustomHeader) : List Name :=
  match c.header with
  | .error _ => seen
  | .ok h => if h.name ∈ managedNames ∨ h.name ∈ seen then seen else h.name :: seen

theorem customFaults_cons (index : Nat) (seen : List Name) (c : CustomHeader)
    (rest : List CustomHeader) :
    customFaults index seen (c :: rest) =
      (faultBehind seen index c).toList ++ customFaults (index + 1) (remember seen c) rest := by
  cases read : c.header with
  | error source => simp [customFaults, faultBehind, remember, read]
  | ok h =>
      by_cases managed : h.name ∈ managedNames
      · simp [customFaults, faultBehind, remember, read, managed]
      · by_cases old : h.name ∈ seen
        · simp [customFaults, faultBehind, remember, read, managed, old]
        · simp [customFaults, faultBehind, remember, read, managed, old]

theorem mem_headerNames_iff {l : List CustomHeader} {n : Name} :
    n ∈ headerNames l ↔ ∃ c ∈ l, ∃ h, c.header = .ok h ∧ h.name = n := by
  rw [headerNames, List.mem_filterMap]
  constructor
  · rintro ⟨c, member, named⟩
    obtain ⟨h, found, same⟩ := Option.map_eq_some_iff.1 named
    cases read : c.header with
    | error e =>
        rw [read] at found
        cases found
    | ok h' =>
        rw [read] at found
        cases found
        exact ⟨c, member, h, read, same⟩
  · rintro ⟨c, member, h, read, same⟩
    refine ⟨c, member, ?_⟩
    rw [read, ← same]
    rfl

theorem mem_remember {seen : List Name} {c : CustomHeader} {n : Name} :
    n ∈ remember seen c ↔
      n ∈ seen ∨ n ∉ managedNames ∧ ∃ h, c.header = .ok h ∧ h.name = n := by
  cases read : c.header with
  | error e => simp [remember, read]
  | ok h =>
      simp only [remember, read, Except.ok.injEq, exists_eq_left']
      split
      · rename_i dropped
        constructor
        · exact Or.inl
        · rintro (old | ⟨free, rfl⟩)
          · exact old
          · exact dropped.resolve_left free
      · rename_i kept
        rw [List.mem_cons, or_comm]
        apply or_congr_right
        constructor
        · rintro rfl
          exact ⟨fun managed => kept (Or.inl managed), rfl⟩
        · rintro ⟨-, rfl⟩
          rfl

/-- The names seen decide on duplicates as all headers so far would: they may lack managed names,
which are refused before duplicates are looked for. -/
def Tracks (seen : List Name) (before : List CustomHeader) : Prop :=
  ∀ n, n ∉ managedNames → (n ∈ seen ↔ n ∈ headerNames before)

theorem Tracks.nil : Tracks [] [] := fun _ _ => Iff.rfl

theorem headerNames_append (a b : List CustomHeader) :
    headerNames (a ++ b) = headerNames a ++ headerNames b := List.filterMap_append

theorem Tracks.remember {seen : List Name} {before : List CustomHeader}
    (tracks : Tracks seen before) (c : CustomHeader) :
    Tracks (remember seen c) (before ++ [c]) := by
  intro n free
  rw [mem_remember, tracks n free, headerNames_append, List.mem_append,
    mem_headerNames_iff (l := [c])]
  simp [free]

theorem faultBehind_congr {seen seen' : List Name}
    (alike : ∀ n, n ∉ managedNames → (n ∈ seen ↔ n ∈ seen')) (index : Nat) (c : CustomHeader) :
    faultBehind seen index c = faultBehind seen' index c := by
  cases read : c.header with
  | error source => simp only [faultBehind, read]
  | ok h =>
      by_cases managed : h.name ∈ managedNames
      · simp only [faultBehind, read, managed, if_true]
      · simp only [faultBehind, read, managed, if_false, alike h.name managed]

theorem faultAt_middle (before : List CustomHeader) (c : CustomHeader)
    (rest : List CustomHeader) :
    faultAt (before ++ c :: rest) before.length =
      faultBehind (headerNames before) before.length c := by
  simp [faultAt]

/-- The induction is on the headers still to come; what stands before them is only known through
the names seen. -/
theorem customFaults_eq_filterMap {seen : List Name} {before : List CustomHeader}
    (tracks : Tracks seen before) (l : List CustomHeader) :
    customFaults before.length seen l =
      (List.range' before.length l.length).filterMap (faultAt (before ++ l)) := by
  induction l generalizing seen before with
  | nil => rfl
  | cons c rest ih =>
      have next := ih (tracks.remember c)
      rw [List.length_append, List.length_singleton, List.append_assoc,
        List.singleton_append] at next
      rw [customFaults_cons, next, faultBehind_congr tracks, List.length_cons, List.range'_succ]
      cases fault : faultBehind (headerNames before) before.length c with
      | none =>
          rw [List.filterMap_cons_none ((faultAt_middle before c rest).trans fault)]
          rfl
      | some f =>
          rw [List.filterMap_cons_some ((faultAt_middle before c rest).trans fault)]
          rfl

/-- The custom headers are checked in order, each against those in front of it. -/
theorem customFaults_eq (l : List CustomHeader) :
    customFaults 0 [] l = (List.range l.length).filterMap (faultAt l) := by
  rw [List.range_eq_range']
  exact customFaults_eq_filterMap Tracks.nil l

theorem mem_customFaults {l : List CustomHeader} {f : Fault} :
    f ∈ customFaults 0 [] l ↔ ∃ i, faultAt l i = some f := by
  rw [customFaults_eq, List.mem_filterMap]
  constructor
  · rintro ⟨i, -, found⟩
    exact ⟨i, found⟩
  · rintro ⟨i, found⟩
    refine ⟨i, List.mem_range.2 ?_, found⟩
    obtain ⟨c, there, -⟩ := Option.bind_eq_some_iff.1 found
    exact (List.getElem?_eq_some_iff.1 there).1

/-- The custom header at a position is no header, for this reason. -/
def InvalidAt (l : List CustomHeader) (i : Nat) (e : HeaderError) : Prop :=
  ∃ c, l[i]? = some c ∧ c.header = .error e

/-- What an invalid header is reported for does not depend on the other headers. -/
theorem faultAt_eq_invalidHeader_iff {l : List CustomHeader} {i j : Nat} {e : HeaderError} :
    faultAt l i = some (.invalidHeader j e) ↔ j = i ∧ InvalidAt l i e := by
  unfold faultAt InvalidAt
  cases there : l[i]? with
  | none => simp
  | some c =>
      simp only [Option.bind_some, faultBehind]
      cases read : c.header with
      | error source => simp [read, eq_comm]
      | ok h =>
          by_cases managed : h.name ∈ managedNames
          · simp [read, managed]
          · by_cases taken : h.name ∈ headerNames (l.take i)
            · simp [read, managed, taken]
            · simp [read, managed, taken]

theorem invalidHeader_mem_customFaults {l : List CustomHeader} {i : Nat} {e : HeaderError} :
    Fault.invalidHeader i e ∈ customFaults 0 [] l ↔ InvalidAt l i e := by
  rw [mem_customFaults]
  constructor
  · rintro ⟨j, found⟩
    obtain ⟨rfl, invalid⟩ := faultAt_eq_invalidHeader_iff.1 found
    exact invalid
  · intro invalid
    exact ⟨i, faultAt_eq_invalidHeader_iff.2 ⟨rfl, invalid⟩⟩

theorem readCustomHeaders_cons_error {c : CustomHeader} {e : HeaderError}
    (invalid : c.header = .error e) (rest : List CustomHeader) :
    readCustomHeaders (c :: rest) = .error e := by
  rw [readCustomHeaders, invalid]
  rfl

theorem readCustomHeaders_cons_ok {c : CustomHeader} {h : Header} (valid : c.header = .ok h)
    (rest : List CustomHeader) :
    readCustomHeaders (c :: rest) = (readCustomHeaders rest).map (h :: ·) := by
  rw [readCustomHeaders, valid]
  cases readCustomHeaders rest <;> rfl

theorem readCustomHeaders_eq_ok_iff {l : List CustomHeader} {hs : List Header} :
    readCustomHeaders l = .ok hs ↔ l.map CustomHeader.header = hs.map Except.ok := by
  induction l generalizing hs with
  | nil => cases hs <;> simp [readCustomHeaders]
  | cons c rest ih =>
      cases read : c.header with
      | error e =>
          rw [readCustomHeaders_cons_error read, List.map_cons, read]
          cases hs <;> simp
      | ok h =>
          rw [readCustomHeaders_cons_ok read, List.map_cons, read]
          cases hs with
          | nil => cases readCustomHeaders rest <;> simp [Except.map]
          | cons h' hs =>
              rw [List.map_cons, List.cons.injEq, ← ih]
              cases readCustomHeaders rest <;> simp [Except.map]

/-- The translation fails with the fault of the first header that has one. -/
theorem readCustomHeaders_eq_error_iff {l : List CustomHeader} {e : HeaderError} :
    readCustomHeaders l = .error e ↔
      ∃ i, InvalidAt l i e ∧ ∀ j e', InvalidAt l j e' → i ≤ j := by
  induction l with
  | nil => simp [readCustomHeaders, InvalidAt]
  | cons c rest ih =>
      cases read : c.header with
      | error source =>
          rw [readCustomHeaders_cons_error read]
          constructor
          · intro same
            cases same
            exact ⟨0, ⟨c, rfl, read⟩, fun j e' _ => Nat.zero_le j⟩
          · rintro ⟨i, ⟨c', there, invalid⟩, least⟩
            have start : i = 0 := Nat.le_zero.1 (least 0 source ⟨c, rfl, read⟩)
            subst start
            cases there
            have same := read.symm.trans invalid
            cases same
            rfl
      | ok h =>
          rw [readCustomHeaders_cons_ok read]
          have failed : (readCustomHeaders rest).map (h :: ·) = .error e ↔
              readCustomHeaders rest = .error e := by
            cases readCustomHeaders rest <;> simp [Except.map]
          rw [failed, ih]
          constructor
          · rintro ⟨i, invalid, least⟩
            refine ⟨i + 1, invalid, ?_⟩
            rintro j e' ⟨c', there, invalid'⟩
            cases j with
            | zero =>
                cases there
                rw [read] at invalid'
                cases invalid'
            | succ j => exact Nat.succ_le_succ (least j e' ⟨c', there, invalid'⟩)
          · rintro ⟨i, ⟨c', there, invalid⟩, least⟩
            cases i with
            | zero =>
                cases there
                rw [read] at invalid
                cases invalid
            | succ i =>
                refine ⟨i, ⟨c', there, invalid⟩, ?_⟩
                intro j e' found
                exact Nat.le_of_succ_le_succ (least (j + 1) e' found)

theorem InvalidAt.exists_error {l : List CustomHeader} {i : Nat} {e : HeaderError}
    (invalid : InvalidAt l i e) : ∃ first, readCustomHeaders l = .error first := by
  obtain ⟨c, there, bad⟩ := invalid
  cases read : readCustomHeaders l with
  | error first => exact ⟨first, rfl⟩
  | ok hs =>
      have valid : c.header ∈ hs.map Except.ok := by
        rw [← readCustomHeaders_eq_ok_iff.1 read]
        exact List.mem_map_of_mem (List.mem_of_getElem? there)
      obtain ⟨h, -, good⟩ := List.mem_map.1 valid
      rw [bad] at good
      cases good

theorem faultBehind_eq_none_iff {taken : List Name} {index : Nat} {c : CustomHeader}
    {h : Header} (valid : c.header = .ok h) :
    faultBehind taken index c = none ↔ h.name ∉ managedNames ∧ h.name ∉ taken := by
  simp only [faultBehind, valid]
  by_cases managed : h.name ∈ managedNames
  · simp [managed]
  · by_cases old : h.name ∈ taken
    · simp [managed, old]
    · simp [managed, old]

/-- A header with a fault leaves no trace in the names seen. -/
theorem remember_of_fault {seen : List Name} {index : Nat} {c : CustomHeader}
    (faulty : faultBehind seen index c ≠ none) : remember seen c = seen := by
  cases read : c.header with
  | error e => simp only [remember, read]
  | ok h =>
      have seen_or_managed : h.name ∈ managedNames ∨ h.name ∈ seen := by
        apply Decidable.byContradiction
        intro neither
        exact faulty ((faultBehind_eq_none_iff read).2 (not_or.1 neither))
      simp only [remember, read, seen_or_managed, if_true]

theorem remember_of_sound {seen : List Name} {index : Nat} {c : CustomHeader}
    (sound : faultBehind seen index c = none) :
    ∃ h, c.header = .ok h ∧ remember seen c = h.name :: seen := by
  cases read : c.header with
  | error e => simp [faultBehind, read] at sound
  | ok h =>
      obtain ⟨free, fresh⟩ := (faultBehind_eq_none_iff read).1 sound
      refine ⟨h, rfl, ?_⟩
      simp only [remember, read, free, fresh, or_self, if_false]

/-- No fault is found where all are headers, with names that are neither managed nor given twice.
The names seen at the start count as given. -/
theorem customFaults_eq_nil_iff {index : Nat} {seen : List Name} {l : List CustomHeader} :
    customFaults index seen l = [] ↔
      ∃ hs, readCustomHeaders l = .ok hs ∧
        (∀ h ∈ hs, h.name ∉ managedNames ∧ h.name ∉ seen) ∧ (hs.map Header.name).Nodup := by
  induction l generalizing index seen with
  | nil => simp [customFaults, readCustomHeaders]
  | cons c rest ih =>
      rw [customFaults_cons, List.append_eq_nil_iff, Option.toList_eq_nil_iff, ih]
      cases read : c.header with
      | error e =>
          rw [readCustomHeaders_cons_error read]
          simp [faultBehind, read]
      | ok h =>
          rw [faultBehind_eq_none_iff read, readCustomHeaders_cons_ok read]
          constructor
          · rintro ⟨⟨free, fresh⟩, hs, all, apart, distinct⟩
            simp only [remember, read, free, fresh, or_self, if_false, List.mem_cons,
              not_or] at apart
            refine ⟨h :: hs, by rw [all]; rfl, ?_, ?_⟩
            · rw [List.forall_mem_cons]
              exact ⟨⟨free, fresh⟩, fun h' member => ⟨(apart h' member).1, (apart h' member).2.2⟩⟩
            · rw [List.map_cons, List.nodup_cons]
              refine ⟨?_, distinct⟩
              intro again
              obtain ⟨h', member, same⟩ := List.mem_map.1 again
              exact (apart h' member).2.1 same
          · rintro ⟨hs', all, apart, distinct⟩
            cases rest_read : readCustomHeaders rest with
            | error e =>
                rw [rest_read] at all
                cases all
            | ok hs =>
                rw [rest_read] at all
                cases all
                rw [List.forall_mem_cons] at apart
                rw [List.map_cons, List.nodup_cons] at distinct
                refine ⟨apart.1, hs, rfl, ?_, distinct.2⟩
                simp only [remember, read, apart.1, or_self, if_false, List.mem_cons, not_or]
                intro h' member
                refine ⟨(apart.2 h' member).1, ?_, (apart.2 h' member).2⟩
                intro same
                exact distinct.1 (List.mem_map.2 ⟨h', member, same⟩)

end SecureHeaders.Config
