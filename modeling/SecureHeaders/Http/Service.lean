import SecureHeaders.Chain.Basic
import SecureHeaders.Metrics
/-!
Messages, services and layers. A request's target is kept with the path that routes are matched
against; the query, the fragment and the authority of a target are not part of it. A service answers
a request and tells what is to be counted and which spans were opened; a layer makes a service of a
service.
-/

namespace SecureHeaders.Http

open Header (Fields Name Value)
open Text (Bytes)

/-- The path of what follows the authority: up to a query or a fragment. -/
def pathBefore (s : List Char) : List Char := s.takeWhile fun c => c ≠ '?' && c ≠ '#'

/-- What follows `://`, if a target names a scheme. -/
def afterScheme? : List Char → Option (List Char)
  | ':' :: '/' :: '/' :: s => some s
  | c :: s => if c = '/' || c = '?' || c = '#' then none else afterScheme? s
  | [] => none

/-- The path of a request target. A target in absolute form that stops after its authority has the
path `/`; a target that is an authority alone has none. -/
def targetPath (target : String) : String :=
  match target.toList with
  | '/' :: s => String.ofList (pathBefore ('/' :: s))
  | ['*'] => "*"
  | s =>
    match afterScheme? s with
    | none => ""
    | some rest =>
      match pathBefore (rest.dropWhile fun c => c ≠ '/' && c ≠ '?' && c ≠ '#') with
      | [] => "/"
      | path => String.ofList path

structure Request where
  method : String := "GET"
  target : String
  headers : Fields := Fields.empty
  body : Bytes := []

def Request.path (r : Request) : String := targetPath r.target

structure Response where
  status : Nat
  headers : Fields
  body : Bytes
deriving DecidableEq

def contentLength : Name := ⟨"content-length", by decide⟩
def contentType : Name := ⟨"content-type", by decide⟩
def allow : Name := ⟨"allow", by decide⟩
def xRequestId : Name := ⟨"x-request-id", by decide⟩

/-- Adds a header line unless the message has one of that name. -/
def addIfAbsent (m : Fields) (n : Name) (v : Value) : Fields :=
  if m.contains n then m else m.append n v

theorem values_addIfAbsent (m : Fields) (n k : Name) (v : Value) :
    (addIfAbsent m n v).values k = if k = n ∧ m.values n = [] then [v] else m.values k := by
  unfold addIfAbsent
  by_cases present : m.contains n = true
  · have full := Fields.contains_iff.1 present
    simp [present, full]
  · have free : m.values n = [] := Fields.contains_eq_false_iff.1 (Bool.eq_false_iff.2 present)
    rw [if_neg present, Fields.values_append]
    by_cases same : k = n
    · subst same
      simp [free]
    · simp [same]

structure Span where
  method : String
  path : String
  requestId : String
deriving DecidableEq

structure Answer where
  response : Response
  counted : List Metric := []
  spans : List Span := []

abbrev Service := Request → Answer

abbrev Layer := Service → Service

def Service.always (r : Response) : Service := fun _ => { response := r }

/-- The id of a request as text; `unknown` when it has none or its first one is not text. -/
def requestId (r : Request) : String :=
  ((r.headers.get? xRequestId).bind Value.text?).getD "unknown"

/-- Gives a request an id unless it has one. -/
def setRequestId (fresh : Value) : Layer := fun service request =>
  if request.headers.contains xRequestId then service request
  else service { request with headers := request.headers.insert xRequestId fresh }

/-- Copies the first id of the request to a response that has none. -/
def propagateRequestId : Layer := fun service request =>
  let answer := service request
  match request.headers.get? xRequestId with
  | none => answer
  | some id =>
    if answer.response.headers.contains xRequestId then answer
    else
      { answer with
        response := { answer.response with
          headers := answer.response.headers.insert xRequestId id } }

def spanOf (r : Request) : Span := ⟨r.method, r.path, requestId r⟩

/-- Opens a span for the request and counts the response by its status. -/
def trace : Layer := fun service request =>
  let answer := service request
  { answer with
    counted := answer.counted ++ [.request answer.response.status]
    spans := spanOf request :: answer.spans }

/-- Runs the chain on the response and counts the headers that it writes. -/
def securityHeaders (chain : Chain) : Layer := fun service request =>
  let answer := service request
  let (headers, written) := chain.writeAll answer.response.headers
  { answer with
    response := { answer.response with headers }
    counted := answer.counted ++ written.map .headerWritten }

end SecureHeaders.Http
