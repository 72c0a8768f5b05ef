import SecureHeaders.Proofs.ConfigMeaning
import SecureHeaders.Proofs.Served
/-!
The id of a request on its response. The chain runs before the id is echoed, and a check lets a
custom header under the name of the id pass: such a header takes the place of the id on every
response, and it is the only thing that does.
-/

namespace SecureHeaders

open Header (Name Value)
open Http (Request Server xRequestId)

namespace Http

/-- The ids on the response to a request that would get the id `fresh`. -/
def Server.requestIds (s : Server) (fresh : Value) (request : Request) : List Value :=
  (s.answer fresh request).response.headers.values xRequestId

/-- A chain that offers the name of the id wins over the id. -/
theorem Server.requestIds_eq (s : Server) (fresh : Value) (request : Request) :
    s.requestIds fresh request =
      if Chain.firstValues s.chain.headers xRequestId = [] then [request.servedId fresh]
      else Chain.firstValues s.chain.headers xRequestId := by
  unfold requestIds
  have refusal : xRequestId ≠ allow := by decide
  have length : xRequestId ≠ contentLength := by decide
  have absent := contains_xRequestId_bare request
  rw [answer_eq]
  dsimp only
  rw [Router.values_finish (absurd · refusal) (absurd · length), values_echo,
    Chain.values_writeAll_of_absent _ absent]
  simp only [true_and]

end Http

namespace Config

/-- The custom header `e` is written under the name of the id. -/
structure Headers.TakesId (c : Headers) (e : CustomHeader) : Prop where
  enabled : c.enabled = true
  member : e ∈ c.custom
  named : Header.lower e.name = xRequestId.text

theorem Headers.Checked.firstValues_of_takesId {c : Headers} {fixed : List Header}
    (checked : c.Checked fixed) {e : CustomHeader} (takes : c.TakesId e) :
    (Chain.firstValues (c.declaration fixed).build.headers xRequestId).map Value.bytes =
      e.values.map Text.bytes := by
  rw [firstValues_unmanaged takes.enabled fixed (by decide)]
  exact checked.firstValues_custom takes.member takes.named

/-- A custom header that has been read has a value. -/
theorem Headers.Checked.values_ne_nil {c : Headers} {fixed : List Header}
    (checked : c.Checked fixed) {e : CustomHeader} (member : e ∈ c.custom) : e.values ≠ [] := by
  obtain ⟨h, -, read⟩ := header_of_mem checked.read member
  have values := (CustomHeader.header_eq_ok read).2
  intro none
  rw [none, List.map_nil, List.map_eq_nil_iff] at values
  exact h.hasValue values

theorem Headers.Checked.firstValues_of_not_takesId {c : Headers} {fixed : List Header}
    (checked : c.Checked fixed) (free : ∀ e, ¬ c.TakesId e) :
    Chain.firstValues (c.declaration fixed).build.headers xRequestId = [] := by
  cases on : c.enabled with
  | false =>
      rw [headers_of_disabled on]
      rfl
  | true =>
      rw [firstValues_unmanaged on fixed (by decide)]
      apply checked.firstValues_eq_nil
      intro e member named
      exact free e ⟨on, member, named⟩

variable {c : Config} {fixed : List Header}

theorem requestIds_of_takesId (checked : c.headers.Checked fixed) {e : CustomHeader}
    (takes : c.headers.TakesId e) (fresh : Value) (request : Request) :
    ((Server.withDeclaration c (c.headers.declaration fixed)).requestIds fresh request).map
      Value.bytes = e.values.map Text.bytes := by
  have values := checked.firstValues_of_takesId takes
  have some : Chain.firstValues (c.headers.declaration fixed).build.headers xRequestId ≠ [] := by
    intro none
    rw [none, List.map_nil, eq_comm, List.map_eq_nil_iff] at values
    exact checked.values_ne_nil takes.member values
  rw [Server.requestIds_eq]
  exact (congrArg _ (if_neg some)).trans values

theorem requestIds_of_not_takesId (checked : c.headers.Checked fixed)
    (free : ∀ e, ¬ c.headers.TakesId e) (fresh : Value) (request : Request) :
    (Server.withDeclaration c (c.headers.declaration fixed)).requestIds fresh request =
      [request.servedId fresh] := by
  rw [Server.requestIds_eq]
  exact if_pos (checked.firstValues_of_not_takesId free)

/-- When the id of a request is kept: `ids` are those on the response to each request. -/
structure Headers.IdMeaning (c : Headers) (ids : Value → Request → List Value) : Prop where
  kept : ∀ fresh request, ids fresh request = [request.servedId fresh] ↔
    ∀ e, c.TakesId e → e.values.map Text.bytes = [(request.servedId fresh).bytes]
  always : (∀ fresh request, ids fresh request = [request.servedId fresh]) ↔
    ∀ e, ¬ c.TakesId e
  taken : ∀ e, c.TakesId e → ∀ fresh request,
    (ids fresh request).map Value.bytes = e.values.map Text.bytes

end Config

/-- The id of a request is on its response, alone, exactly where no custom header has taken its
place with something else. -/
theorem ofConfig_keeps_requestId_iff (c : Config) (sound : c.faults = []) :
    ∃ s, Server.ofConfig c = .ok s ∧ c.headers.IdMeaning s.requestIds := by
  obtain ⟨fixed, checked, made⟩ := Http.Server.ofConfig_of_faults_eq_nil sound
  refine ⟨_, made, ?kept, ?always, ?taken⟩
  case kept =>
    intro fresh request
    constructor
    · intro own e takes
      rw [← Config.requestIds_of_takesId checked takes fresh request, own]
      rfl
    · intro alike
      by_cases taken : ∃ e, c.headers.TakesId e
      · obtain ⟨e, takes⟩ := taken
        have bytes := Config.requestIds_of_takesId checked takes fresh request
        rw [alike e takes] at bytes
        obtain ⟨id, ids, same⟩ := List.map_eq_singleton_iff.1 bytes
        rw [ids, Value.ext same]
      · exact Config.requestIds_of_not_takesId checked (not_exists.1 taken) fresh request
  case always =>
    constructor
    · intro own e takes
      -- Two requests without an id of their own would have to get the same one.
      have first := Config.requestIds_of_takesId checked takes ⟨Text.bytes "a", by decide⟩
        { target := "/" }
      have second := Config.requestIds_of_takesId checked takes ⟨Text.bytes "b", by decide⟩
        { target := "/" }
      rw [own] at first second
      have same := first.trans second.symm
      exact absurd same (by decide)
    · intro free fresh request
      exact Config.requestIds_of_not_takesId checked free fresh request
  case taken =>
    intro e takes fresh request
    exact Config.requestIds_of_takesId checked takes fresh request

theorem ofConfig_keeps_requestId_iff_of_taken :
    let c : Config := { headers := { custom := [⟨"X-Request-Id", ["one", "two"]⟩] } }
    c.faults = [] ∧ ∃ s, Server.ofConfig c = .ok s ∧ c.headers.IdMeaning s.requestIds :=
  ⟨by decide, ofConfig_keeps_requestId_iff _ (by decide)⟩

/-- A request with an id of its own whose response carries two others. -/
theorem requestId_not_kept :
    let c : Config := { headers := { custom := [⟨"X-Request-Id", ["one", "two"]⟩] } }
    let id : Value := ⟨Text.bytes "req-42", by decide⟩
    let request : Request := { target := "/", headers := ⟨[(xRequestId, id)]⟩ }
    c.faults = [] ∧ request.headers.get? xRequestId = some id ∧
      ∃ s, Server.ofConfig c = .ok s ∧ ∀ fresh, s.requestIds fresh request ≠ [id] ∧
        (s.requestIds fresh request).map Value.bytes = [Text.bytes "one", Text.bytes "two"] := by
  intro c id request
  have sound : c.faults = [] := by decide
  obtain ⟨fixed, checked, made⟩ := Http.Server.ofConfig_of_faults_eq_nil sound
  have takes : c.headers.TakesId ⟨"X-Request-Id", ["one", "two"]⟩ :=
    ⟨rfl, List.mem_cons_self, by decide⟩
  refine ⟨sound, by decide, _, made, ?_⟩
  intro fresh
  have ids := Config.requestIds_of_takesId checked takes fresh request
  refine ⟨?_, ids⟩
  intro kept
  have one := congrArg List.length ids
  rw [kept] at one
  cases one

end SecureHeaders
