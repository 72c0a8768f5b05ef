import SecureHeaders.Proofs.HeaderLines
import SecureHeaders.Proofs.RequestId
/-!
The id that a request is logged under, beside the id on its response. Both are the first id of the
request as it is served, read once as text and once as bytes, and so they agree where that id is
text; an id that is not text is logged as `unknown` and still sent back byte for byte.
-/

namespace SecureHeaders

open Header (Name Value)
open Http (Request Server xRequestId)

namespace Header

theorem Value.text?_eq_none_iff {v : Value} :
    v.text? = none ↔ v.bytes.all isVisibleByte = false := by
  rw [← Option.not_isSome_iff_eq_none, isSome_text?_iff, Bool.not_eq_true]

/-- The text of a value is written with the bytes of the value. -/
theorem Value.bytes_of_text? {v : Value} {s : String} (text : v.text? = some s) :
    Text.bytes s = v.bytes := by
  unfold text? at text
  split at text
  · rename_i visible
    rw [Option.some.injEq] at text
    subst text
    have whole : ∀ b ∈ v.bytes, (Char.ofNat b.toNat).toNat = b.toNat := by
      have all : ∀ n < 128, (Char.ofNat n).toNat = n := by decide
      intro b member
      exact all b.toNat (toNat_lt_of_isVisibleByte (List.all_eq_true.1 visible b member))
    have ascii : ∀ c ∈ v.bytes.map fun b => Char.ofNat b.toNat, c.toNat < 128 := by
      rw [List.forall_mem_map]
      intro b member
      rw [whole b member]
      exact toNat_lt_of_isVisibleByte (List.all_eq_true.1 visible b member)
    rw [Text.bytes_of_ascii (by rwa [String.toList_ofList]), String.toList_ofList, List.map_map]
    conv => rhs; rw [← List.map_id v.bytes]
    apply List.map_congr_left
    intro b member
    rw [Function.comp_apply, whole b member, UInt8.ofNat_toNat, id]
  · cases text

end Header

namespace Http

/-- What an id is logged as: the text that its bytes spell, if they spell one of tabs and printable
ASCII characters, else a text that stands for all other ids. -/
structure LoggedAs (id : Value) (logged : String) : Prop where
  visible : id.bytes.all Header.isVisibleByte = true → Text.bytes logged = id.bytes
  other : id.bytes.all Header.isVisibleByte = false → logged = "unknown"

theorem loggedAs_text (id : Value) : LoggedAs id (id.text?.getD "unknown") := by
  cases text : id.text? with
  | none =>
      have other := Value.text?_eq_none_iff.1 text
      exact ⟨fun visible => absurd visible (Bool.eq_false_iff.1 other), fun _ => rfl⟩
  | some s =>
      refine ⟨fun _ => Value.bytes_of_text? text, fun other => ?_⟩
      rw [Value.text?_eq_none_iff.2 other] at text
      cases text

/-- The span is opened when the request has got its id. -/
theorem requestId_identified (request : Request) (fresh : Value) :
    requestId (request.identified fresh) = (request.servedId fresh).text?.getD "unknown" := by
  rw [requestId, get?_identified, Option.bind_some]

/-- The response has the id that the request is served under, unless the chain offers one. -/
theorem Server.requestIds_of_free {s : Server}
    (free : Chain.firstValues s.chain.headers xRequestId = []) (fresh : Value)
    (request : Request) : s.requestIds fresh request = [request.servedId fresh] := by
  rw [requestIds_eq, if_pos free]

end Http

/-- A declaration offers the name of the id only by a fixed header. -/
theorem Declaration.firstValues_xRequestId {d : Declaration}
    (free : ∀ h ∈ d.fixed, h.name ≠ xRequestId) :
    Chain.firstValues d.build.headers xRequestId = [] := by
  have embedder : xRequestId ≠ EmbedderPolicy.name := by decide
  have referrer : xRequestId ≠ ReferrerPolicy.name := by decide
  rw [firstValues_build, if_neg embedder, if_neg referrer]
  split
  · rfl
  · exact Chain.firstValues_eq_nil_iff.2 free

/-- A request is logged once, and its response has one id. They agree in every byte where the id is
text; otherwise the log has a text that stands for it. -/
theorem withDeclaration_logs_id (config : Config) (d : Declaration)
    (free : ∀ h ∈ d.fixed, h.name ≠ xRequestId) (fresh : Value) (request : Request) :
    let answer := (Server.withDeclaration config d).answer fresh request
    ∃ id span, answer.response.headers.values xRequestId = [id] ∧ answer.spans = [span] ∧
      Http.LoggedAs id span.requestId := by
  intro answer
  have sent : answer.response.headers.values xRequestId = [request.servedId fresh] :=
    Server.requestIds_of_free (Declaration.firstValues_xRequestId free) fresh request
  have logged : answer.spans = [Http.spanOf (request.identified fresh)] :=
    congrArg Http.Answer.spans (Server.answer_eq _ fresh request)
  refine ⟨_, _, sent, logged, ?_⟩
  rw [Http.spanOf, Http.requestId_identified]
  exact Http.loggedAs_text _

/-- A fixed header of another name, and a request with two ids of which the first is text. -/
theorem withDeclaration_logs_id_of_two_ids :
    let vary : Header := .single ⟨"vary", by decide⟩ ⟨Text.bytes "Origin", by decide⟩
    let d := Declaration.run [.fixed vary, .referrer id]
    let first : Value := ⟨Text.bytes "req-42", by decide⟩
    let second : Value := ⟨Text.bytes "é", by decide⟩
    let request : Request :=
      { target := "/health", headers := ⟨[(xRequestId, first), (xRequestId, second)]⟩ }
    (∀ h ∈ d.fixed, h.name ≠ xRequestId) ∧ ∀ fresh,
      let answer := (Server.withDeclaration {} d).answer fresh request
      ∃ id span, answer.response.headers.values xRequestId = [id] ∧ answer.spans = [span] ∧
        Http.LoggedAs id span.requestId := by
  intro vary d first second request
  have free : ∀ h ∈ d.fixed, h.name ≠ xRequestId := by decide
  exact ⟨free, fun fresh => withDeclaration_logs_id {} d free fresh request⟩

/-- An id that reads as a text in UTF-8, but not in ASCII: it is sent back and not logged. -/
theorem opaque_id_not_logged :
    let id : Value := ⟨Text.bytes "é", by decide⟩
    let request : Request := { target := "/", headers := ⟨[(xRequestId, id)]⟩ }
    ∀ fresh, ∃ span,
      let answer := (Server.withDeclaration {} {}).answer fresh request
      answer.response.headers.values xRequestId = [id] ∧ answer.spans = [span] ∧
        span.requestId = "unknown" ∧ Text.bytes span.requestId ≠ id.bytes ∧
        id.text? ≠ some span.requestId := by
  intro id request fresh
  refine ⟨Http.spanOf request, ?sent, ?logged, by decide, by decide, by decide⟩
  case sent =>
    exact Server.requestIds_of_free (s := Server.withDeclaration {} {}) rfl fresh request
  case logged =>
    exact congrArg Http.Answer.spans (Server.answer_eq _ fresh request)

end SecureHeaders
