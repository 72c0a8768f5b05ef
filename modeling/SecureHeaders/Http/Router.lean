import SecureHeaders.Http.Service
/-!
Routers: routes with fixed paths and a fallback. A route answers `GET` and `HEAD` and refuses every
other method. What is filled in last, outside all layers, is the list of allowed methods of a
refusal, the length of the body, and the missing body of an answer to `HEAD`.
-/

namespace SecureHeaders.Http

open Header (Fields Name Value)

structure Route where
  path : String
  service : Service
  /-- Answers requests with any other method. -/
  refusal : Service

structure Router where
  routes : List Route := []
  fallback : Service
  /-- Whether the length of the fallback's body is filled in for every path; for a target without
  a path it always is. -/
  sized : Bool

def allowedMethods : Value := ⟨Text.bytes "GET,HEAD", by decide⟩

def isAllowed (method : String) : Bool := method == "GET" || method == "HEAD"

def refused : Response := ⟨405, Fields.empty, []⟩

/-- The response of a router without a fallback of its own. -/
def notRouted : Response := ⟨404, Fields.empty, []⟩

namespace Router

def empty : Router := { fallback := Service.always notRouted, sized := false }

def route (r : Router) (path : String) (response : Response) : Router :=
  { r with routes := r.routes ++ [⟨path, Service.always response, Service.always refused⟩] }

def withFallback (r : Router) (response : Response) : Router :=
  { r with fallback := Service.always response, sized := true }

def layer (r : Router) (l : Layer) : Router :=
  { r with
    routes := r.routes.map fun route =>
      { route with service := l route.service, refusal := l route.refusal }
    fallback := l r.fallback }

/-- Registers a chain on every route and the fallback; an empty chain needs no layer. -/
def secure (r : Router) (chain : Chain) : Router :=
  if chain.isEmpty then r else r.layer (securityHeaders chain)

def find? (r : Router) (path : String) : Option Route :=
  r.routes.find? fun route => route.path == path

def hasPath (request : Request) : Bool := request.path.toList.head? == some '/'

/-- The service that is to answer a request, whether it refuses, and whether the length of the
body is to be filled in. -/
structure Choice where
  service : Service
  refuses : Bool
  sized : Bool

def choose (r : Router) (request : Request) : Choice :=
  match r.find? request.path with
  | none => ⟨r.fallback, false, r.sized || !hasPath request⟩
  | some route =>
    if isAllowed request.method then ⟨route.service, false, true⟩
    else ⟨route.refusal, true, true⟩

def finish (c : Choice) (request : Request) (r : Response) : Response :=
  let headers := if c.refuses then addIfAbsent r.headers allow allowedMethods else r.headers
  let headers :=
    if c.sized then addIfAbsent headers contentLength (Value.ofNat r.body.length) else headers
  { r with headers, body := if request.method = "HEAD" then [] else r.body }

def answer (r : Router) (request : Request) : Answer :=
  let choice := r.choose request
  let answer := choice.service request
  { answer with response := finish choice request answer.response }

end Router
end SecureHeaders.Http
