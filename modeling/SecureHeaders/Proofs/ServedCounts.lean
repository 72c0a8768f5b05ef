import Mathlib.Algebra.BigOperators.Group.Finset.Basic
import SecureHeaders.Http.Run
import SecureHeaders.Proofs.FirstWins
import SecureHeaders.Proofs.Served
/-!
The counters after a run. One answer counts its own status, and each offered header once if the
page has not set it, so over a run the counters are numbers of responses, and the order in which
the requests came does not show in them.
-/

namespace SecureHeaders.Http

open Header (Fields Name Value)

namespace Server

variable (s : Server)

theorem counted_answer (fresh : Value) (request : Request) :
    (s.answer fresh request).counted =
      (s.chain.writeAll (bare request).headers).2.map Metric.headerWritten ++
        [.request (bare request).status] := by
  rw [answer_eq]

theorem count_headerWritten (n : Name) (fresh : Value) (request : Request) :
    (s.answer fresh request).counted.count (.headerWritten n) =
      if n ∈ s.chain.headers.map Header.name ∧ (bare request).headers.contains n = false then 1
      else 0 := by
  have injective : Function.Injective Metric.headerWritten := fun a b same => by
    injection same
  have status : ([.request (bare request).status] : List Metric).count (.headerWritten n) = 0 :=
    List.count_eq_zero.2 (by simp)
  rw [counted_answer, List.count_append, List.count_map_of_injective _ _ injective, status,
    Chain.count_written_writeAll, Nat.add_zero]

theorem count_request (status : Nat) (fresh : Value) (request : Request) :
    (s.answer fresh request).counted.count (.request status) =
      if (bare request).status = status then 1 else 0 := by
  have headers : ((s.chain.writeAll (bare request).headers).2.map Metric.headerWritten).count
      (.request status) = 0 := List.count_eq_zero.2 (by simp)
  rw [counted_answer, List.count_append, headers, Nat.zero_add, List.count_singleton]
  by_cases same : (bare request).status = status
  · simp [same]
  · simp [same]

/-- Requests to a server, each with the id that it would get. -/
def exchanges (asked : List (Value × Request)) : List (Service × Request) :=
  asked.map fun x => (s.answer x.1, x.2)

/-- The counters after requests, from counters at zero. -/
def counters (asked : List (Value × Request)) : Counters := countersAfter {} (s.exchanges asked)

def responses (asked : List (Value × Request)) : List Response :=
  (runFrom {} (s.exchanges asked)).map Prod.fst

theorem get_counters_headerWritten (n : Name) (asked : List (Value × Request)) :
    (s.counters asked).get (.headerWritten n) =
      (asked.map Prod.snd).countP fun request =>
        n ∈ s.chain.headers.map Header.name ∧ (bare request).headers.contains n = false := by
  have each : ∀ x ∈ s.exchanges asked, (x.1 x.2).counted.count (.headerWritten n) =
      if n ∈ s.chain.headers.map Header.name ∧ (bare x.2).headers.contains n = false then 1
      else 0 := by
    intro x member
    obtain ⟨y, -, rfl⟩ := List.mem_map.1 member
    exact s.count_headerWritten n y.1 y.2
  rw [counters, get_countersAfter each, exchanges, List.countP_map, List.countP_map]
  exact Nat.zero_add _

theorem map_status_responses (asked : List (Value × Request)) :
    (s.responses asked).map Response.status =
      (asked.map Prod.snd).map fun request => (bare request).status := by
  rw [responses, map_fst_runFrom, exchanges]
  simp only [List.map_map]
  apply List.map_congr_left
  intro x _
  exact s.status_answer x.1 x.2

theorem get_counters_request (status : Nat) (asked : List (Value × Request)) :
    (s.counters asked).get (.request status) =
      ((s.responses asked).map Response.status).count status := by
  have each : ∀ x ∈ s.exchanges asked, (x.1 x.2).counted.count (.request status) =
      if (bare x.2).status = status then 1 else 0 := by
    intro x member
    obtain ⟨y, -, rfl⟩ := List.mem_map.1 member
    exact s.count_request status y.1 y.2
  rw [map_status_responses, counters, get_countersAfter each, exchanges, List.countP_map,
    List.count, List.countP_map, List.countP_map]
  exact Nat.zero_add _

theorem length_responses (asked : List (Value × Request)) :
    (s.responses asked).length = asked.length := by
  rw [responses, List.length_map, length_runFrom, exchanges, List.length_map]

theorem sum_get_counters {statuses : Finset Nat} {asked : List (Value × Request)}
    (all : ∀ response ∈ s.responses asked, response.status ∈ statuses) :
    ∑ status ∈ statuses, (s.counters asked).get (.request status) = asked.length := by
  have inside : ∀ status ∈ ((s.responses asked).map Response.status : Multiset Nat),
      status ∈ statuses := by
    intro status member
    obtain ⟨response, answered, rfl⟩ := List.mem_map.1 (Multiset.mem_coe.1 member)
    exact all response answered
  -- Every response has one status, so nothing is counted twice and nothing is left out.
  calc
    ∑ status ∈ statuses, (s.counters asked).get (.request status)
      = ∑ status ∈ statuses,
          Multiset.count status ((s.responses asked).map Response.status : Multiset Nat) := by
        simp only [get_counters_request, Multiset.coe_count]
    _ = Multiset.card ((s.responses asked).map Response.status : Multiset Nat) :=
        Multiset.sum_count_eq_card inside
    _ = asked.length := by rw [Multiset.coe_card, List.length_map, s.length_responses]

/-- Neither the order of requests nor the ids that they get show in the counters. -/
theorem get_counters_perm {asked other : List (Value × Request)}
    (same : (other.map Prod.snd).Perm (asked.map Prod.snd)) (k : Metric) :
    (s.counters other).get k = (s.counters asked).get k := by
  cases k with
  | headerWritten n =>
      rw [get_counters_headerWritten, get_counters_headerWritten]
      exact same.countP_eq _
  | request status =>
      rw [get_counters_request, get_counters_request, map_status_responses, map_status_responses]
      exact (same.map _).count_eq _

end Server

/-- What counters say of the requests behind them, each given with the id that it would get. -/
structure Tallied (s : Server) (asked : List (Value × Request)) (after : Counters) : Prop where
  offered : ∀ n ∈ s.chain.headers.map Header.name,
    after.get (.headerWritten n) = asked.countP fun x => !(bare x.2).headers.contains n
  others : ∀ n ∉ s.chain.headers.map Header.name, after.get (.headerWritten n) = 0
  once : ∀ x ∈ asked, ∀ n, (s.answer x.1 x.2).counted.count (.headerWritten n) ≤ 1
  statuses : ∀ status, after.get (.request status) =
    (s.responses asked).countP fun response => response.status = status
  requests : ∀ statuses : Finset Nat, (∀ response ∈ s.responses asked, response.status ∈ statuses) →
    ∑ status ∈ statuses, after.get (.request status) = asked.length

/-- Counters are numbers of responses: a header is counted for each page that does not set it, and
a status for each response that has it. -/
theorem withDeclaration_tallied (config : Config) (d : Declaration)
    (asked : List (Value × Request)) :
    let s := Server.withDeclaration config d
    Tallied s asked (s.counters asked) ∧
      ∀ other, (other.map Prod.snd).Perm (asked.map Prod.snd) →
        ∀ k, (s.counters other).get k = (s.counters asked).get k := by
  intro s
  refine ⟨⟨?offered, ?others, ?once, ?statuses, fun _ => s.sum_get_counters⟩,
    fun _ => s.get_counters_perm⟩
  case offered =>
    intro n member
    rw [s.get_counters_headerWritten, List.countP_map]
    apply List.countP_congr
    intro x _
    simp [member]
  case others =>
    intro n unnamed
    rw [s.get_counters_headerWritten]
    apply List.countP_eq_zero.2
    intro request _
    simp [unnamed]
  case once =>
    intro x _ n
    rw [s.count_headerWritten]
    split
    · exact Nat.le_refl 1
    · exact Nat.zero_le 1
  case statuses =>
    intro status
    rw [s.get_counters_request, List.count, List.countP_map]
    apply List.countP_congr
    intro response _
    simp

theorem withDeclaration_tallied_of_three_pages :
    let frame : Header :=
      .single ⟨"x-frame-options", by decide⟩ ⟨Text.bytes "DENY", by decide⟩
    let type : Header := .single contentType ⟨Text.bytes "text/html", by decide⟩
    let d := Declaration.run [.embedder id, .fixed frame, .fixed type, .fixed frame]
    let s := Server.withDeclaration {} d
    let id : Value := ⟨Text.bytes "a", by decide⟩
    let asked : List (Value × Request) := [(id, { target := "/" }),
      (id, { method := "POST", target := "/health" }), (id, { target := "/nowhere" })]
    (∀ response ∈ s.responses asked, response.status ∈ ({200, 404, 405} : Finset Nat)) ∧
      (s.counters asked).get (.headerWritten frame.name) = 3 ∧
      (s.counters asked).get (.headerWritten contentType) = 1 ∧
      ∑ status ∈ {200, 404, 405}, (s.counters asked).get (.request status) = 3 ∧
      ∀ k, (s.counters asked.reverse).get k = (s.counters asked).get k := by
  intro frame type d s id asked
  obtain ⟨tallied, reordered⟩ := withDeclaration_tallied {} d asked
  have all : ∀ response ∈ s.responses asked, response.status ∈ ({200, 404, 405} : Finset Nat) := by
    decide
  have backwards : (asked.reverse.map Prod.snd).Perm (asked.map Prod.snd) :=
    (List.reverse_perm asked).map _
  exact ⟨all, (tallied.offered _ (by decide)).trans (by decide),
    (tallied.offered _ (by decide)).trans (by decide), tallied.requests _ all,
    reordered _ backwards⟩

end SecureHeaders.Http
