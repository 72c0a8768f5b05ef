import Mathlib.Data.List.Nodup
import SecureHeaders.Config.Decode
/-!
What reading a section comes to, said of its entries one by one: an entry that cannot be read, in
whichever place, is a mismatch for the section and for every section around it.
-/

namespace SecureHeaders.Config

/-- The reading ends with a mismatch. -/
def Fails {α : Type} (r : Reading α) : Prop := ∃ m, r = .error m

section
variable {α β : Type} {r : Reading α}

theorem fails_error (m : Mismatch) : Fails (.error m : Reading α) := ⟨m, rfl⟩

theorem not_fails_of_eq_ok {x : α} (read : r = .ok x) : ¬ Fails r := by
  rintro ⟨m, failed⟩
  cases read.symm.trans failed

theorem Fails.map (failed : Fails r) (f : α → β) : Fails (r.map f) := by
  obtain ⟨m, rfl⟩ := failed
  exact fails_error m

/-- Two readings one after the other fail where the second one does, if the first comes so far. -/
theorem fails_bind {f : α → Reading β} (later : ∀ x, r = .ok x → Fails (f x)) :
    Fails (r >>= f) := by
  cases read : r with
  | error m => exact fails_error m
  | ok x => exact later x read

end

section
variable {σ : Type} {fields : List (Field σ)} {format : Format} {key : String} {inner : Data}

theorem readEntries_cons_of_none {rest : List (String × Data)}
    (unknown : fields.find? (fun f => f.key == key) = none) (s : σ) :
    readEntries fields format ((key, inner) :: rest) s = readEntries fields format rest s := by
  rw [readEntries, unknown]

theorem readEntries_cons_of_some {rest : List (String × Data)} {f : Field σ}
    (known : fields.find? (fun f => f.key == key) = some f) (s : σ) :
    readEntries fields format ((key, inner) :: rest) s =
      f.read format inner s >>= readEntries fields format rest := by
  rw [readEntries, known]

theorem readItems_cons (f : Field σ) (fields : List (Field σ)) (d : Data) (rest : List Data)
    (s : σ) :
    readItems format (f :: fields) (d :: rest) s =
      f.read format d s >>= readItems format fields rest := rfl

theorem key_of_find? {f : Field σ} (known : fields.find? (fun f => f.key == key) = some f) :
    f.key = key := by
  have own := List.find?_some known
  exact eq_of_beq own

/-- With distinct keys, a field is found by its own key. -/
theorem eq_of_find? {f g : Field σ} (distinct : (fields.map Field.key).Nodup)
    (known : fields.find? (fun f => f.key == key) = some f) (member : g ∈ fields)
    (named : g.key = key) : g = f :=
  List.inj_on_of_nodup_map distinct member (List.mem_of_find?_eq_some known)
    (named.trans (key_of_find? known).symm)

/-- What a section holds for one of its fields: in a map an entry under the key, in a list the item
in the place of the field. -/
def Gives (fields : List (Field σ)) (key : String) (inner : Data) : Data → Prop
  | .map entries => (key, inner) ∈ entries
  | .list items | .tables items =>
    ∃ i : Nat, fields[i]?.map Field.key = some key ∧ items[i]? = some inner
  | _ => False

variable {f : Field σ}

theorem fails_readEntries (known : fields.find? (fun f => f.key == key) = some f)
    (bad : ∀ s, Fails (f.read format inner s)) {entries : List (String × Data)}
    (member : (key, inner) ∈ entries) (s : σ) : Fails (readEntries fields format entries s) := by
  induction entries generalizing s with
  | nil => cases member
  | cons entry rest ih =>
      obtain ⟨k, d⟩ := entry
      cases found : fields.find? fun f => f.key == k with
      | none =>
          rw [readEntries_cons_of_none found]
          rcases List.mem_cons.1 member with first | later
          · rw [← (Prod.mk.inj first).1, known] at found
            cases found
          · exact ih later s
      | some g =>
          rw [readEntries_cons_of_some found]
          apply fails_bind
          intro s' read
          rcases List.mem_cons.1 member with first | later
          · obtain ⟨rfl, rfl⟩ := Prod.mk.inj first
            cases known.symm.trans found
            exact absurd (bad s) (not_fails_of_eq_ok read)
          · exact ih later s'

theorem fails_readItems {fields : List (Field σ)} (bad : ∀ s, Fails (f.read format inner s))
    {i : Nat} (here : fields[i]? = some f) {items : List Data} (there : items[i]? = some inner)
    (s : σ) : Fails (readItems format fields items s) := by
  induction items generalizing fields i s with
  | nil => cases there
  | cons d rest ih =>
      cases fields with
      | nil => cases here
      | cons g fields =>
          rw [readItems_cons]
          apply fails_bind
          intro s' read
          cases i with
          | zero =>
              cases here
              cases there
              exact absurd (bad s) (not_fails_of_eq_ok read)
          | succ i => exact ih (i := i) here there s'

/-- One field that cannot be read is enough, whatever stands before it. -/
theorem fails_readSection {d : Data} (gives : Gives fields key inner d)
    (distinct : (fields.map Field.key).Nodup)
    (known : fields.find? (fun f => f.key == key) = some f)
    (bad : ∀ s, Fails (f.read format inner s)) (title : String) (start : σ) :
    Fails (readSection title fields start format d) := by
  have listed : ∀ items : List Data,
      (∃ i : Nat, fields[i]?.map Field.key = some key ∧ items[i]? = some inner) →
      Fails (readItems format fields items start) := by
    rintro items ⟨i, named, there⟩
    obtain ⟨g, here, own⟩ := Option.map_eq_some_iff.1 named
    cases eq_of_find? distinct known (List.mem_of_getElem? here) own
    exact fails_readItems bad here there start
  cases d with
  | map entries => exact fails_readEntries known bad gives start
  | list items =>
      exact fails_bind fun s read => absurd (listed items gives) (not_fails_of_eq_ok read)
  | tables items =>
      exact fails_bind fun s read => absurd (listed items gives) (not_fails_of_eq_ok read)
  | null | bool | int | float | text | moment => cases gives

/-- Sections put together field by field: `keep present` has its own content in the fields whose
keys are in `present`, and it depends on nothing else. -/
def ByField (fields : List (Field σ)) (keep : (String → Bool) → σ) : Prop :=
  ∀ p q, (∀ key ∈ fields.map Field.key, p key = q key) → keep p = keep q

/-- The induction is on the entries, for any fields that are there already: each entry adds the
field of its key, so that the order of the entries does not matter. -/
theorem readEntries_eq_ok {keep : (String → Bool) → σ} (byField : ByField fields keep)
    {entries : List (String × Data)}
    (reads : ∀ f ∈ fields, ∀ d, (f.key, d) ∈ entries → ∀ present,
      f.read format d (keep present) = .ok (keep fun key => present key || key == f.key))
    (present : String → Bool) :
    readEntries fields format entries (keep present) =
      .ok (keep fun key => present key || (entries.map Prod.fst).contains key) := by
  induction entries generalizing present with
  | nil => simp only [readEntries, List.map_nil, List.contains_nil, Bool.or_false]
  | cons entry rest ih =>
      obtain ⟨k, d⟩ := entry
      have later := ih fun f member d inside => reads f member d (List.mem_cons_of_mem _ inside)
      cases found : fields.find? fun f => f.key == k with
      | none =>
          rw [readEntries_cons_of_none found, later]
          congr 1
          apply byField
          intro key member
          obtain ⟨f, own, named⟩ := List.mem_map.1 member
          have other : (key == k) = false := by
            rw [← named]
            exact Bool.eq_false_iff.2 (List.find?_eq_none.1 found f own)
          rw [List.map_cons, List.contains_cons, other, Bool.false_or]
      | some f =>
          have named := key_of_find? found
          have first := reads f (List.mem_of_find?_eq_some found) d
            (named ▸ List.mem_cons_self) present
          rw [readEntries_cons_of_some found, first]
          refine (later _).trans ?_
          simp only [named, List.map_cons, List.contains_cons, Bool.or_assoc]

end

end SecureHeaders.Config
