import Mathlib.Data.List.Forall2
import SecureHeaders.Proofs.SectionReading
/-!
Documents with entries taken out and others put in. A section that is read from such a document has
the fields whose entries are left, and what is put in under a key of its own is passed over.
-/

namespace SecureHeaders

namespace Data

/-- The keys on the way to an entry of a tree of maps. -/
abbrev Path := List String

/-- The entry at a path is gone, with itself or with an entry around it. -/
def lost (gone : Path → Bool) : Path → Bool
  | [] => false
  | key :: path => gone [key] || lost (fun path => gone (key :: path)) path

/-- The first tree without the entries at the paths that are gone, and with any entries put in under
keys that the map of the first tree does not have. The order of entries is free, but as in every map
no key stands twice. Inside of lists nothing is taken out. -/
inductive Edited : (Path → Bool) → Data → Data → Prop
  | leaf {gone : Path → Bool} {d : Data} (plain : d.isLeaf = true) : Edited gone d d
  | list {gone : Path → Bool} {items items' : List Data}
      (inner : List.Forall₂ (Edited fun _ => false) items items') :
      Edited gone (.list items) (.list items')
  | map {gone : Path → Bool} {entries entries' : List (String × Data)}
      (distinct : (entries'.map Prod.fst).Nodup)
      (left : ∀ key ∈ entries.map Prod.fst,
        key ∈ entries'.map Prod.fst ↔ gone [key] = false)
      (inner : ∀ e ∈ entries, ∀ d, (e.1, d) ∈ entries' →
        Edited (fun path => gone (e.1 :: path)) e.2 d) :
      Edited gone (.map entries) (.map entries')

variable {gone : Path → Bool}

theorem Edited.eq_of_isLeaf {d d' : Data} (edited : Edited gone d d') (plain : d.isLeaf = true) :
    d' = d := by
  cases edited with
  | leaf => rfl
  | list | map => cases plain

theorem Edited.exists_list {items : List Data} {d : Data} (edited : Edited gone (.list items) d) :
    ∃ items', d = .list items' ∧ List.Forall₂ (Edited fun _ => false) items items' := by
  cases edited with
  | leaf plain => cases plain
  | list inner => exact ⟨_, rfl, inner⟩

mutual

/-- The tree without the entries at the paths that are gone. -/
def without (gone : Path → Bool) : Data → Data
  | .map entries => .map (withoutEntries gone entries)
  | d => d

def withoutEntries (gone : Path → Bool) : List (String × Data) → List (String × Data)
  | [] => []
  | (key, d) :: rest =>
    if gone [key] then withoutEntries gone rest
    else (key, without (fun path => gone (key :: path)) d) :: withoutEntries gone rest

end

theorem withoutEntries_eq (gone : Path → Bool) (entries : List (String × Data)) :
    withoutEntries gone entries =
      (entries.filter fun e => !gone [e.1]).map fun e =>
        (e.1, e.2.without fun path => gone (e.1 :: path)) := by
  induction entries with
  | nil => rfl
  | cons e rest ih =>
      rw [withoutEntries, ih]
      cases left : gone [e.1] <;> simp [left]

theorem mem_withoutEntries_iff {entries : List (String × Data)} {key : String} {d' : Data} :
    (key, d') ∈ withoutEntries gone entries ↔ gone [key] = false ∧
      ∃ d, (key, d) ∈ entries ∧ d' = d.without fun path => gone (key :: path) := by
  simp only [withoutEntries_eq, List.mem_map, List.mem_filter, Bool.not_eq_true', Prod.mk.injEq]
  constructor
  · rintro ⟨⟨_, d⟩, ⟨inside, left⟩, rfl, rfl⟩
    exact ⟨left, d, inside, rfl⟩
  · rintro ⟨left, d, inside, rfl⟩
    exact ⟨(key, d), ⟨inside, left⟩, rfl, rfl⟩

theorem nodup_keys_withoutEntries (gone : Path → Bool) {entries : List (String × Data)}
    (distinct : (entries.map Prod.fst).Nodup) :
    ((withoutEntries gone entries).map Prod.fst).Nodup := by
  have keys : (withoutEntries gone entries).map Prod.fst =
      (entries.filter fun e => !gone [e.1]).map Prod.fst := by
    rw [withoutEntries_eq, List.map_map]
    rfl
  rw [keys]
  exact distinct.sublist (List.filter_sublist.map Prod.fst)

theorem eq_of_mem_of_nodup {entries : List (String × Data)}
    (distinct : (entries.map Prod.fst).Nodup) {key : String} {d d' : Data}
    (here : (key, d) ∈ entries) (there : (key, d') ∈ entries) : d = d' :=
  (Prod.mk.inj (List.inj_on_of_nodup_map distinct here there rfl)).2

theorem Keyed.refl {d : Data} (keyed : Keyed d) : Edited (fun _ => false) d d := by
  induction keyed with
  | leaf plain => exact .leaf plain
  | list _ ih => exact .list (List.forall₂_same.2 ih)
  | map distinct _ ih =>
      refine .map distinct (fun key member => iff_of_true member rfl) ?_
      intro e here d there
      cases eq_of_mem_of_nodup distinct here there
      exact ih e here

theorem Keyed.edited_without {d : Data} (keyed : Keyed d) (gone : Path → Bool) :
    Edited gone d (d.without gone) := by
  induction keyed generalizing gone with
  | @leaf d plain =>
      cases d with
      | list | tables | map => cases plain
      | _ => exact .leaf plain
  | list inner _ => exact .list (List.forall₂_same.2 fun item member => (inner item member).refl)
  | map distinct _ ih =>
      refine .map (nodup_keys_withoutEntries gone distinct) ?_ ?_
      · intro key member
        obtain ⟨⟨_, d⟩, here, rfl⟩ := List.mem_map.1 member
        constructor
        · intro left
          obtain ⟨⟨_, d'⟩, there, rfl⟩ := List.mem_map.1 left
          exact (mem_withoutEntries_iff.1 there).1
        · intro left
          exact List.mem_map.2 ⟨(_, _), mem_withoutEntries_iff.2 ⟨left, d, here, rfl⟩, rfl⟩
      · intro e here d there
        obtain ⟨-, own, inside, rfl⟩ := mem_withoutEntries_iff.1 there
        cases eq_of_mem_of_nodup distinct here inside
        exact ih e here _

end Data

namespace Config

open Data (Edited Path)

variable {σ : Type} {fields : List (Field σ)} {keep : (String → Bool) → σ} {gone : Path → Bool}
  {entries : List (String × Data)}

/-- The field reads its own content from what an edit leaves of its entry. -/
def Restores (keep : (String → Bool) → σ) (gone : Path → Bool) (f : Field σ)
    (entry : String × Data) : Prop :=
  f.key = entry.1 ∧ ∀ d', Edited (fun path => gone (entry.1 :: path)) entry.2 d' → ∀ present,
    f.read .json d' (keep present) = .ok (keep fun key => present key || key == f.key)

theorem keys_of_restores (restored : List.Forall₂ (Restores keep gone) fields entries) :
    entries.map Prod.fst = fields.map Field.key := by
  induction restored with
  | nil => rfl
  | cons first _ ih => rw [List.map_cons, List.map_cons, ih, first.1]

theorem exists_restores (restored : List.Forall₂ (Restores keep gone) fields entries)
    {f : Field σ} (member : f ∈ fields) : ∃ entry ∈ entries, Restores keep gone f entry := by
  induction restored with
  | nil => cases member
  | cons first _ ih =>
      rcases List.mem_cons.1 member with rfl | later
      · exact ⟨_, List.mem_cons_self, first⟩
      · obtain ⟨entry, inside, own⟩ := ih later
        exact ⟨entry, List.mem_cons_of_mem _ inside, own⟩

/-- A section read from an edited map: a field has its own content where its entry is left. -/
theorem readSection_of_edited (byField : ByField fields keep)
    (restored : List.Forall₂ (Restores keep gone) fields entries) {d : Data}
    (edited : Edited gone (.map entries) d) (title : String) :
    readSection title fields (keep fun _ => false) .json d =
      .ok (keep fun key => !gone [key]) := by
  cases edited with
  | leaf plain => cases plain
  | @map _ _ entries' _ left inner =>
      have read : readEntries fields .json entries' (keep fun _ => false) =
          .ok (keep fun key => false || (entries'.map Prod.fst).contains key) := by
        apply readEntries_eq_ok byField
        intro f member d' inside present
        obtain ⟨entry, own, named, reads⟩ := exists_restores restored member
        rw [named] at inside
        exact reads d' (inner entry own d' inside) present
      refine read.trans (congrArg _ (byField _ _ ?_))
      intro key known
      rw [← keys_of_restores restored] at known
      have remains := left key known
      rw [Bool.false_or, Bool.eq_iff_iff, List.contains_iff_mem, Bool.not_eq_true', remains]

end Config
end SecureHeaders
