import SecureHeaders.Header.Name
/-!
Counters: headers written, by name, and responses served, by status.
-/

namespace SecureHeaders

open Header (Name)

inductive Metric where
  | headerWritten (name : Name)
  | request (status : Nat)
deriving DecidableEq

/-- The name of a series with its label. -/
def Metric.series : Metric → String
  | .headerWritten name =>
    "header_guard_headers_written_total\x7bheader=\"" ++ name.text ++ "\"\x7d"
  | .request status =>
    "header_guard_requests_total\x7bstatus=\"" ++ toString status ++ "\"\x7d"

/-- Series that have been counted at least once, with their counts. -/
structure Counters where
  counts : List (Metric × Nat) := []

namespace Counters

def get (c : Counters) (m : Metric) : Nat :=
  ((c.counts.find? fun e => e.1 = m).map Prod.snd).getD 0

def bump (m : Metric) : List (Metric × Nat) → List (Metric × Nat)
  | [] => [(m, 1)]
  | (k, n) :: rest => if k = m then (k, n + 1) :: rest else (k, n) :: bump m rest

def increment (c : Counters) (m : Metric) : Counters := ⟨bump m c.counts⟩

def incrementAll (c : Counters) (ms : List Metric) : Counters := ms.foldl increment c

@[simp] theorem get_increment (c : Counters) (m k : Metric) :
    (c.increment m).get k = c.get k + if k = m then 1 else 0 := by
  obtain ⟨counts⟩ := c
  simp only [increment, get]
  induction counts with
  | nil => by_cases h : k = m <;> simp [bump, h, eq_comm]
  | cons e rest ih =>
    obtain ⟨x, n⟩ := e
    by_cases hx : x = m <;> by_cases hk : x = k <;> by_cases h : k = m <;>
      simp_all [bump]

theorem get_incrementAll (c : Counters) (ms : List Metric) (k : Metric) :
    (c.incrementAll ms).get k = c.get k + ms.count k := by
  induction ms generalizing c with
  | nil => rfl
  | cons m rest ih =>
    have step : (c.incrementAll (m :: rest)) = (c.increment m).incrementAll rest := rfl
    rw [step, ih, get_increment, List.count_cons]
    by_cases same : m = k
    · subst same
      simp
      omega
    · have other : k ≠ m := fun e => same e.symm
      simp [same, other]

end Counters
end SecureHeaders
