import SecureHeaders.Proofs.FirstWins
import SecureHeaders.Proofs.Served
/-!
What the security layer does to a server: on every response, whichever way a request is routed, it
adds the headers that the chain writes onto what the page has set, and it leaves the rest alone.
-/

namespace SecureHeaders.Http

open Header (Fields Name Value)

/-- The names that are filled in outside the chain, where nothing stands under them. -/
def filledIn : List Name := [xRequestId, contentLength, allow]

/-- A response beside one without security headers: `page` are the headers that the page has set. -/
structure AddsOnly (c : Chain) (page : Fields) (secured plain : Response) : Prop where
  status : secured.status = plain.status
  body : secured.body = plain.body
  values : ∀ n, n ∉ filledIn → secured.headers.values n = (c.writeAll page).1.values n

theorem Server.values_answer {n : Name} (outside : n ∉ filledIn) (s : Server) (fresh : Value)
    (request : Request) :
    (s.answer fresh request).response.headers.values n =
      (s.chain.writeAll (bare request).headers).1.values n := by
  simp only [filledIn, List.mem_cons, List.not_mem_nil, or_false, not_or] at outside
  obtain ⟨id, length, refusal⟩ := outside
  rw [answer_eq]
  dsimp only
  rw [Router.values_finish (absurd · refusal) (absurd · length)]
  exact values_echo_of_settled (absurd · id) _

/-- A name that the chain writes is not filled in any more. -/
theorem Server.values_answer_of_written {s : Server} {request : Request} {n : Name}
    (written : n ∈ (s.chain.writeAll (bare request).headers).2) (fresh : Value) :
    (s.answer fresh request).response.headers.values n =
      Chain.firstValues s.chain.headers n := by
  obtain ⟨absent, present⟩ := Chain.mem_written_run.1 written
  have full := Fields.contains_iff.1 present
  rw [values_answer_of_ne_nil full fresh]
  exact Chain.values_writeAll_of_absent s.chain absent

/-- A server differs from one with its headers turned off only in the headers that its chain writes
onto a page, and the names that the page has set, nothing else of a request, decide which these
are. -/
theorem withDeclaration_adds_only (config : Config) (d other : Declaration) :
    let s := Server.withDeclaration config d
    let plain := Server.withDeclaration config (other.step .disable)
    let written := fun request => (d.build.writeAll (bare request).headers).2
    (∀ fresh fresh' request, AddsOnly d.build (bare request).headers
      (s.answer fresh request).response (plain.answer fresh' request).response) ∧
    (∀ r : Router, r.secure d.build = r.layer (securityHeaders d.build)) ∧
    ∀ a b, (∀ n, (bare a).headers.contains n = (bare b).headers.contains n) →
      written a = written b ∧
        ∀ n ∈ written a, ∀ fresh fresh',
          (s.answer fresh a).response.headers.values n =
            (s.answer fresh' b).response.headers.values n := by
  intro s plain written
  refine ⟨?adds, ?shortcut, ?alike⟩
  case adds =>
    intro fresh fresh' request
    constructor
    case status => rw [Server.status_answer, Server.status_answer]
    case body => rw [Server.body_answer, Server.body_answer]
    case values =>
      intro n outside
      exact Server.values_answer outside s fresh request
  case shortcut =>
    intro r
    exact r.secure_eq_layer d.build
  case alike =>
    intro a b same
    -- The pages may differ in values, bodies and statuses: a writer asks only for presence.
    have names : written a = written b := Chain.written_run_congr d.build.writers same
    refine ⟨names, ?_⟩
    intro n member fresh fresh'
    have first := Server.values_answer_of_written (s := s) member fresh
    have second := Server.values_answer_of_written (s := s) (names ▸ member) fresh'
    rw [first, second]

theorem withDeclaration_adds_only_of_two_pages :
    let vary : Header := .single ⟨"vary", by decide⟩ ⟨Text.bytes "Origin", by decide⟩
    let d := Declaration.run [.embedder id, .fixed vary, .fixed vary]
    let s := Server.withDeclaration {} d
    let a : Request := { target := "/" }
    let b : Request := { method := "HEAD", target := "/health?full" }
    let written := (d.build.writeAll (bare a).headers).2
    (∀ n, (bare a).headers.contains n = (bare b).headers.contains n) ∧
      written = [vary.name] ∧ written = (d.build.writeAll (bare b).headers).2 ∧
      ∀ n ∈ written, ∀ fresh fresh',
        (s.answer fresh a).response.headers.values n =
          (s.answer fresh' b).response.headers.values n := by
  intro vary d s a b written
  have same : ∀ n, (bare a).headers.contains n = (bare b).headers.contains n := by
    have index : bare a = indexPage := by decide
    have health : bare b = healthPage := by decide
    intro n
    rw [index, health]
    rfl
  have alike := (withDeclaration_adds_only {} d {}).2.2 a b same
  exact ⟨same, by decide, alike.1, alike.2⟩

end SecureHeaders.Http
