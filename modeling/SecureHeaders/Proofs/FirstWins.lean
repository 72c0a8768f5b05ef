import SecureHeaders.Chain.Basic
/-!
What a chain leaves on a message, said without running it. A name that the message has stays as it
is, every other name gets the values of the first header that carries it, and the names written are
those of the headers that were absent, each at its first place.
-/

namespace SecureHeaders

open Header (Fields Name Value)

namespace Header.Fields

/-- A header has a value, so adding it makes its name present. -/
theorem contains_appendHeader (m : Fields) (h : Header) (n : Name) :
    (m.appendHeader h).contains n = (m.contains n || decide (n = h.name)) := by
  apply Bool.eq_iff_iff.2
  rw [Bool.or_eq_true, decide_eq_true_eq, contains_iff, contains_iff, values_appendHeader]
  by_cases own : n = h.name
  · have full : m.values n ++ h.values ≠ [] := List.append_ne_nil_of_right_ne_nil _ h.hasValue
    rw [if_pos own]
    exact ⟨fun _ => Or.inr own, fun _ => full⟩
  · rw [if_neg own]
    exact ⟨Or.inl, fun either => either.resolve_right own⟩

end Header.Fields

namespace Writer

theorem write_congr {a b : Writer} (same : a.compute = b.compute) (m : Fields) :
    a.write m = b.write m := by
  simp only [write, same]

theorem write_of_contains {w : Writer} {h : Header} (computed : w.compute = some h) {m : Fields}
    (present : m.contains h.name = true) : w.write m = (m, none) := by
  simp only [write, computed, present, if_true]

theorem write_of_contains_eq_false {w : Writer} {h : Header} (computed : w.compute = some h)
    {m : Fields} (absent : m.contains h.name = false) :
    w.write m = (m.appendHeader h, some h) := by
  simp only [write, computed, absent, Bool.false_eq_true, if_false]

/-- Whether it is written or not, the name of a computed header is present afterwards. -/
theorem contains_write {w : Writer} {h : Header} (computed : w.compute = some h) (m : Fields)
    (n : Name) : (w.write m).1.contains n = (m.contains n || decide (n = h.name)) := by
  cases present : m.contains h.name with
  | true =>
      rw [write_of_contains computed present]
      by_cases own : n = h.name
      · rw [own, present]
        rfl
      · simp [own]
  | false =>
      rw [write_of_contains_eq_false computed present]
      exact Fields.contains_appendHeader m h n

end Writer

namespace Chain

/-- The values under a name in the first header that carries it. -/
def firstValues (offered : List Header) (n : Name) : List Value :=
  ((offered.find? fun h => h.name = n).map Header.values).getD []

@[simp] theorem firstValues_nil (n : Name) : firstValues [] n = [] := rfl

theorem firstValues_cons (h : Header) (offered : List Header) (n : Name) :
    firstValues (h :: offered) n = if h.name = n then h.values else firstValues offered n := by
  by_cases own : h.name = n <;> simp [firstValues, own]

theorem firstValues_eq_nil_iff {offered : List Header} {n : Name} :
    firstValues offered n = [] ↔ ∀ h ∈ offered, h.name ≠ n := by
  induction offered with
  | nil => simp
  | cons h offered ih =>
      rw [firstValues_cons, List.forall_mem_cons]
      by_cases own : h.name = n
      · simp [own, h.hasValue]
      · simp [own, ih]

theorem firstValues_ne_nil_iff {offered : List Header} {n : Name} :
    firstValues offered n ≠ [] ↔ n ∈ offered.map Header.name := by
  rw [Ne, firstValues_eq_nil_iff, List.mem_map]
  constructor
  · intro some
    apply Decidable.byContradiction
    intro missed
    exact some fun h member same => missed ⟨h, member, same⟩
  · rintro ⟨h, member, same⟩ none
    exact none h member same

theorem firstValues_of_find? {offered : List Header} {n : Name} {h : Header}
    (found : offered.find? (fun h => h.name = n) = some h) : firstValues offered n = h.values := by
  simp only [firstValues, found, Option.map_some, Option.getD_some]

/-- What a chain computes decides what it does: writers that hold the headers themselves do the
same. -/
theorem run_fixed_headers (ws : List Writer) (m : Fields) :
    run ((ws.filterMap Writer.compute).map Writer.fixed) m = run ws m := by
  induction ws generalizing m with
  | nil => rfl
  | cons w ws ih =>
      cases computed : w.compute with
      | none =>
          rw [List.filterMap_cons_none computed, run_cons w,
            Writer.write_of_compute_eq_none computed, ih]
          rfl
      | some h =>
          have alike : (Writer.fixed h).compute = w.compute := computed.symm
          have same : (Writer.fixed h).write m = w.write m := Writer.write_congr alike m
          rw [List.filterMap_cons_some computed, List.map_cons, run_cons, run_cons w, same, ih]

theorem run_congr {a b : List Writer}
    (same : a.filterMap Writer.compute = b.filterMap Writer.compute) (m : Fields) :
    run a m = run b m := by
  rw [← run_fixed_headers a, same, run_fixed_headers]

/-- The induction is on the writers, for every message: a writer that writes makes its name
present for all that follow, and leaves every other name alone. -/
theorem values_run (ws : List Writer) (m : Fields) (n : Name) :
    (run ws m).1.values n =
      if m.values n = [] then firstValues (ws.filterMap Writer.compute) n else m.values n := by
  induction ws generalizing m with
  | nil => simp +contextual
  | cons w ws ih =>
      rw [run_cons, ih]
      cases computed : w.compute with
      | none =>
          rw [Writer.write_of_compute_eq_none computed, List.filterMap_cons_none computed]
      | some h =>
          rw [Writer.values_write computed, List.filterMap_cons_some computed, firstValues_cons]
          by_cases free : m.values n = []
          · by_cases own : n = h.name
            · subst own
              simp [free, h.hasValue]
            · have other : h.name ≠ n := fun e => own e.symm
              simp [free, own, other]
          · simp [free]

theorem written_run (ws : List Writer) (m : Fields) :
    (run ws m).2 =
      (((ws.filterMap Writer.compute).map Header.name).filter
        fun n => !m.contains n).eraseDups := by
  induction ws generalizing m with
  | nil => rfl
  | cons w ws ih =>
      rw [run_cons, ih]
      cases computed : w.compute with
      | none =>
          rw [Writer.write_of_compute_eq_none computed, List.filterMap_cons_none computed]
          rfl
      | some h =>
          rw [List.filterMap_cons_some computed, List.map_cons]
          cases present : m.contains h.name with
          | true =>
              rw [Writer.write_of_contains computed present]
              simp [present]
          | false =>
              rw [Writer.write_of_contains_eq_false computed present]
              simp only [Option.map_some, Option.toList_some, List.cons_append, List.nil_append,
                List.filter_cons, present, Bool.not_false, if_true, List.eraseDups_cons,
                List.filter_filter]
              -- From here on a name counts as absent if it was and is not the one just written.
              congr 3
              funext n
              rw [Fields.contains_appendHeader]
              by_cases own : n = h.name <;> simp [own]

/-- Only which names a message has decides on the names written. -/
theorem written_run_congr (ws : List Writer) {a b : Fields}
    (alike : ∀ n, a.contains n = b.contains n) : (run ws a).2 = (run ws b).2 := by
  rw [written_run, written_run]
  simp only [alike]

/-- The names written are those that were absent and now are not. -/
theorem mem_written_run {ws : List Writer} {m : Fields} {n : Name} :
    n ∈ (run ws m).2 ↔ m.contains n = false ∧ (run ws m).1.contains n = true := by
  rw [written_run, List.mem_eraseDups, List.mem_filter, Bool.not_eq_true', and_comm,
    Fields.contains_iff, values_run]
  apply and_congr_right
  intro missing
  rw [if_pos (Fields.contains_eq_false_iff.1 missing)]
  exact firstValues_ne_nil_iff.symm

theorem written_run_sublist (ws : List Writer) (m : Fields) :
    (run ws m).2.Sublist ((ws.filterMap Writer.compute).map Header.name) := by
  induction ws generalizing m with
  | nil => exact List.Sublist.slnil
  | cons w ws ih =>
      rw [run_cons]
      have rest := ih (w.write m).1
      cases computed : w.compute with
      | none =>
          rw [List.filterMap_cons_none computed, Writer.write_of_compute_eq_none computed]
          exact ih m
      | some h =>
          rw [List.filterMap_cons_some computed, List.map_cons, Writer.write_snd computed]
          split
          · exact rest.cons h.name
          · exact rest.cons_cons h.name

/-- A name that has been written is present for all later writers. -/
theorem nodup_written_run (ws : List Writer) (m : Fields) : (run ws m).2.Nodup := by
  induction ws generalizing m with
  | nil => exact List.nodup_nil
  | cons w ws ih =>
      rw [run_cons]
      cases computed : w.compute with
      | none =>
          rw [Writer.write_of_compute_eq_none computed]
          exact ih m
      | some h =>
          cases present : m.contains h.name with
          | true =>
              rw [Writer.write_of_contains computed present]
              exact ih m
          | false =>
              rw [Writer.write_of_contains_eq_false computed present]
              refine List.nodup_cons.2 ⟨?_, ih _⟩
              intro again
              have absent := (mem_written_run.1 again).1
              rw [Fields.contains_appendHeader, decide_eq_true rfl, Bool.or_true] at absent
              cases absent

/-- However many writers compute a name, it is reported once, and only where it was absent. -/
theorem count_written_writeAll (c : Chain) (m : Fields) (n : Name) :
    (c.writeAll m).2.count n =
      if n ∈ c.headers.map Header.name ∧ m.contains n = false then 1 else 0 := by
  have member : n ∈ (run c.writers m).2 ↔
      n ∈ c.headers.map Header.name ∧ m.contains n = false := by
    rw [written_run, List.mem_eraseDups, List.mem_filter, Bool.not_eq_true']
    rfl
  rw [writeAll, (nodup_written_run c.writers m).count]
  simp only [member]

theorem values_writeAll_of_present (c : Chain) {m : Fields} {n : Name}
    (present : m.contains n = true) : (c.writeAll m).1.values n = m.values n :=
  (values_run c.writers m n).trans (if_neg (Fields.contains_iff.1 present))

theorem values_writeAll_of_absent (c : Chain) {m : Fields} {n : Name}
    (absent : m.contains n = false) :
    (c.writeAll m).1.values n = firstValues c.headers n :=
  (values_run c.writers m n).trans (if_pos (Fields.contains_eq_false_iff.1 absent))

/-- What offering headers to a message comes to: `before` and `after` are the message, `written`
the names that are reported. -/
structure FirstWins (offered : List Header) (before after : Fields) (written : List Name) :
    Prop where
  kept : ∀ n, before.contains n = true → after.values n = before.values n
  first : ∀ n h, before.contains n = false → offered.find? (fun h => h.name = n) = some h →
    after.values n = h.values
  absent : ∀ n, before.contains n = false → (∀ h ∈ offered, h.name ≠ n) →
    after.contains n = false
  reported : written =
    ((offered.map Header.name).filter fun n => !before.contains n).eraseDups

/-- A chain offers its headers, and nothing else about it matters. -/
theorem writeAll_firstWins (c : Chain) (m : Fields) :
    FirstWins c.headers m (c.writeAll m).1 (c.writeAll m).2 ∧
      ∀ other : Chain, other.headers = c.headers → other.writeAll m = c.writeAll m := by
  refine ⟨⟨?kept, ?first, ?absent, written_run c.writers m⟩, ?headers⟩
  case kept =>
    intro n present
    exact values_writeAll_of_present c present
  case first =>
    intro n h missing found
    rw [values_writeAll_of_absent c missing]
    exact firstValues_of_find? found
  case absent =>
    intro n missing none
    rw [Fields.contains_eq_false_iff, values_writeAll_of_absent c missing]
    exact firstValues_eq_nil_iff.2 none
  case headers =>
    intro other same
    exact run_congr same m

end Chain
end SecureHeaders
