import SecureHeaders.Http.Service
/-!
Runs: requests answered one after another, with the counters after each. A series that every answer
counts at most once has, after a run, the number of answers that count it.
-/

namespace SecureHeaders.Http

/-- The responses with the counters after each, starting from `counters`. -/
def runFrom (counters : Counters) : List (Service × Request) → List (Response × Counters)
  | [] => []
  | (service, request) :: rest =>
    let answer := service request
    let counters := counters.incrementAll answer.counted
    (answer.response, counters) :: runFrom counters rest

def run (service : Service) (requests : List Request) : List (Response × Counters) :=
  runFrom {} (requests.map fun r => (service, r))

@[simp] theorem length_runFrom (counters : Counters) (exchanges : List (Service × Request)) :
    (runFrom counters exchanges).length = exchanges.length := by
  induction exchanges generalizing counters with
  | nil => rfl
  | cons x rest ih => simp [runFrom, ih]

/-- Every request gets the response that it would get alone. -/
theorem map_fst_runFrom (counters : Counters) (exchanges : List (Service × Request)) :
    (runFrom counters exchanges).map Prod.fst =
      exchanges.map fun x => (x.1 x.2).response := by
  induction exchanges generalizing counters with
  | nil => rfl
  | cons x rest ih => simp [runFrom, ih]

def countersAfter (start : Counters) (exchanges : List (Service × Request)) : Counters :=
  ((runFrom start exchanges).getLast?.map Prod.snd).getD start

theorem countersAfter_cons (start : Counters) (x : Service × Request)
    (rest : List (Service × Request)) :
    countersAfter start (x :: rest) =
      countersAfter (start.incrementAll (x.1 x.2).counted) rest := by
  unfold countersAfter
  rw [runFrom, List.getLast?_cons]
  cases runFrom (start.incrementAll (x.1 x.2).counted) rest with
  | nil => rfl
  | cons y more =>
      rw [List.getLast?_cons]
      rfl

/-- A series that every answer counts at most once: over a run it counts the answers that do. -/
theorem get_countersAfter {k : Metric} {counts : Service × Request → Prop} [DecidablePred counts]
    {exchanges : List (Service × Request)}
    (each : ∀ x ∈ exchanges, (x.1 x.2).counted.count k = if counts x then 1 else 0)
    (start : Counters) :
    (countersAfter start exchanges).get k =
      start.get k + exchanges.countP fun x => counts x := by
  induction exchanges generalizing start with
  | nil => rfl
  | cons x rest ih =>
      rw [List.forall_mem_cons] at each
      rw [countersAfter_cons, ih each.2, Counters.get_incrementAll, each.1, List.countP_cons]
      simp only [decide_eq_true_eq]
      omega

end SecureHeaders.Http
