import SecureHeaders.Number.Shortest
/-!
Trees of data, as documents hold them. Entries of a map have distinct keys and an order that the
notation of the document decides.
-/

namespace SecureHeaders

inductive Data where
  | null
  | bool (b : Bool)
  | int (n : Int)
  | float (x : Binary64)
  | text (s : String)
  /-- A date, a time of day, or both. -/
  | moment
  | list (items : List Data)
  /-- A list of maps that are spread over the document. -/
  | tables (items : List Data)
  | map (entries : List (String × Data))
deriving Inhabited

namespace Data

def get? : Data → String → Option Data
  | map entries, key => (entries.find? fun e => e.1 == key).map Prod.snd
  | _, _ => none

/-- Sets the value of a key, in place if the key is there, else where its order puts it. -/
def insertSorted (key : String) (value : Data) :
    List (String × Data) → List (String × Data)
  | [] => [(key, value)]
  | (k, v) :: rest =>
    if key < k then (key, value) :: (k, v) :: rest
    else if key = k then (key, value) :: rest
    else (k, v) :: insertSorted key value rest

def isLeaf : Data → Bool
  | .list _ | .tables _ | .map _ => false
  | _ => true

/-- Trees in which no map has a key twice. -/
inductive Keyed : Data → Prop
  | leaf {d : Data} (plain : d.isLeaf = true) : Keyed d
  | list {items : List Data} (inner : ∀ item ∈ items, Keyed item) : Keyed (.list items)
  | map {entries : List (String × Data)} (distinct : (entries.map Prod.fst).Nodup)
      (inner : ∀ e ∈ entries, Keyed e.2) : Keyed (.map entries)

theorem keyed_of_leaves {entries : List (String × Data)}
    (distinct : (entries.map Prod.fst).Nodup) (plain : ∀ e ∈ entries, e.2.isLeaf = true) :
    Keyed (.map entries) :=
  .map distinct fun e member => .leaf (plain e member)

theorem keyed_map {α : Type} {write : α → Data} (inner : ∀ x, Keyed (write x)) {xs : List α} :
    Keyed (.list (xs.map write)) := by
  refine .list ?_
  intro item member
  obtain ⟨x, -, rfl⟩ := List.mem_map.1 member
  exact inner x

end Data
end SecureHeaders
