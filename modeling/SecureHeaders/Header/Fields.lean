import SecureHeaders.Header.Basic
/-!
The header fields of a message: lines of a name and a value, in the order in which they were
added. A name is present when some line carries it, so no name is present without a value.
The view of the type is `values`; each operation has one lemma that says what it does to it.
-/

namespace SecureHeaders.Header

structure Fields where
  lines : List (Name × Value)
deriving DecidableEq

namespace Fields

def empty : Fields := ⟨[]⟩

instance : Inhabited Fields := ⟨empty⟩

/-- The values under a name, in the order in which they were added. -/
def values (m : Fields) (n : Name) : List Value :=
  (m.lines.filter fun l => l.1 = n).map Prod.snd

def get? (m : Fields) (n : Name) : Option Value := (m.values n).head?

def contains (m : Fields) (n : Name) : Bool := m.lines.any fun l => l.1 = n

/-- The names that are present, each once, in order of first appearance. -/
def names (m : Fields) : List Name := (m.lines.map Prod.fst).eraseDups

def append (m : Fields) (n : Name) (v : Value) : Fields := ⟨m.lines ++ [(n, v)]⟩

/-- Adds all values of a header after what the message holds. -/
def appendHeader (m : Fields) (h : Header) : Fields :=
  ⟨m.lines ++ h.values.map (h.name, ·)⟩

def remove (m : Fields) (n : Name) : Fields := ⟨m.lines.filter fun l => l.1 ≠ n⟩

/-- Makes `v` the only value under `n`. -/
def insert (m : Fields) (n : Name) (v : Value) : Fields := (m.remove n).append n v

def ofList (lines : List (Name × Value)) : Fields := ⟨lines⟩

@[ext] theorem ext {a b : Fields} (h : a.lines = b.lines) : a = b := by
  cases a; cases b; simp_all

@[simp] theorem values_empty (n : Name) : empty.values n = [] := rfl

theorem contains_iff {m : Fields} {n : Name} : m.contains n = true ↔ m.values n ≠ [] := by
  simp [contains, values]

theorem contains_eq_false_iff {m : Fields} {n : Name} :
    m.contains n = false ↔ m.values n = [] := by
  rw [← Bool.not_eq_true, contains_iff, ne_eq, Decidable.not_not]

@[simp] theorem values_append (m : Fields) (n k : Name) (v : Value) :
    (m.append n v).values k = if k = n then m.values k ++ [v] else m.values k := by
  by_cases h : k = n
  · simp [values, append, h]
  · simp [values, append, h, eq_comm]

@[simp] theorem values_appendHeader (m : Fields) (h : Header) (k : Name) :
    (m.appendHeader h).values k = if k = h.name then m.values k ++ h.values else m.values k := by
  by_cases e : k = h.name
  · subst e
    simp [values, appendHeader, List.filter_map, Function.comp_def]
  · have : h.name ≠ k := fun x => e x.symm
    simp [values, appendHeader, List.filter_map, Function.comp_def, e, this]

@[simp] theorem values_remove (m : Fields) (n k : Name) :
    (m.remove n).values k = if k = n then [] else m.values k := by
  by_cases h : k = n
  · simp [values, remove, h]
  · simp only [values, remove, List.filter_filter, h, if_false]
    congr 1
    apply List.filter_congr
    intro l _
    by_cases e : l.1 = k <;> simp [e, h]

@[simp] theorem values_insert (m : Fields) (n k : Name) (v : Value) :
    (m.insert n v).values k = if k = n then [v] else m.values k := by
  by_cases h : k = n <;> simp [insert, h]

@[simp] theorem mem_names {m : Fields} {n : Name} : n ∈ m.names ↔ m.contains n = true := by
  simp [names, contains, List.mem_eraseDups]

end Fields
end SecureHeaders.Header
