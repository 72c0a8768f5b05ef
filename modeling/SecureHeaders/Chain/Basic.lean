import SecureHeaders.Policy
import SecureHeaders.Header.Fields
/-!
Writers and chains. A writer computes at most one header and writes it onto a message that lacks its
name: headers that a message already has win over computed ones. The writers of a chain run one
after another on the same message, so that each sees what those before it have written.
-/

namespace SecureHeaders

open Header (Fields Name)

inductive Writer where
  | embedder (policy : Option EmbedderPolicy)
  | referrer (policy : Option ReferrerPolicy)
  | fixed (header : Header)
deriving DecidableEq

namespace Writer

def kind : Writer → String
  | embedder _ => "cross_origin_embedder_policy"
  | referrer _ => "referrer_policy"
  | fixed _ => "static"

/-- The header that a message without it would receive. -/
def compute : Writer → Option Header
  | embedder policy => HeaderPolicy.compute policy
  | referrer policy => HeaderPolicy.compute policy
  | fixed header => some header

/-- The message after writing, and the header if it was written. -/
def write (w : Writer) (m : Fields) : Fields × Option Header :=
  match w.compute with
  | none => (m, none)
  | some h => if m.contains h.name then (m, none) else (m.appendHeader h, some h)

theorem write_of_compute_eq_none {w : Writer} (h : w.compute = none) (m : Fields) :
    w.write m = (m, none) := by
  simp [write, h]

/-- Writing touches the name of the computed header alone, and that only where it was absent. -/
theorem values_write {w : Writer} {h : Header} (computed : w.compute = some h) (m : Fields)
    (n : Name) :
    (w.write m).1.values n = if n = h.name ∧ m.values n = [] then h.values else m.values n := by
  simp only [write, computed]
  by_cases present : m.contains h.name = true
  · rw [if_pos present]
    have full := Fields.contains_iff.1 present
    split
    · rename_i both
      rw [both.1] at both
      exact absurd both.2 full
    · rfl
  · have free : m.values h.name = [] :=
      Fields.contains_eq_false_iff.1 (Bool.eq_false_iff.2 present)
    rw [if_neg present, Fields.values_appendHeader]
    by_cases same : n = h.name
    · subst same
      simp [free]
    · simp [same]

theorem write_snd {w : Writer} {h : Header} (computed : w.compute = some h) (m : Fields) :
    (w.write m).2 = if m.contains h.name then none else some h := by
  simp only [write, computed]
  split <;> rfl

end Writer

structure Chain where
  writers : List Writer
deriving DecidableEq

namespace Chain

def empty : Chain := ⟨[]⟩

def isEmpty (c : Chain) : Bool := c.writers.isEmpty

def size (c : Chain) : Nat := c.writers.length

def kinds (c : Chain) : List String := c.writers.map Writer.kind

/-- The headers that the writers compute, each on its own. -/
def headers (c : Chain) : List Header := c.writers.filterMap Writer.compute

/-- Runs writers in order; beside the message, the names written, in the same order. -/
def run : List Writer → Fields → Fields × List Name
  | [], m => (m, [])
  | w :: ws, m =>
    match w.write m with
    | (m', none) => run ws m'
    | (m', some h) => let (m'', names) := run ws m'; (m'', h.name :: names)

/-- Every writer once, in order. -/
def writeAll (c : Chain) (m : Fields) : Fields × List Name := run c.writers m

@[simp] theorem run_nil (m : Fields) : run [] m = (m, []) := rfl

theorem run_cons (w : Writer) (ws : List Writer) (m : Fields) :
    run (w :: ws) m =
      ((run ws (w.write m).1).1,
        ((w.write m).2.map Header.name).toList ++ (run ws (w.write m).1).2) := by
  rcases written : w.write m with ⟨m', _ | h⟩ <;> simp [run, written]

/-- Writers that run after others see what those have left. -/
theorem run_append (a b : List Writer) (m : Fields) :
    run (a ++ b) m = ((run b (run a m).1).1, (run a m).2 ++ (run b (run a m).1).2) := by
  induction a generalizing m with
  | nil => rfl
  | cons w ws ih => simp only [List.cons_append, run_cons, ih, List.append_assoc]

end Chain
end SecureHeaders
