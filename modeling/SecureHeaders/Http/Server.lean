import SecureHeaders.Http.Router
import SecureHeaders.Config.Load
/-!
The server: two pages and a fallback behind the layers, which from the outside in give the request
an id, trace it, copy the id to the response, and write the security headers.
-/

namespace SecureHeaders.Http

open Header (Fields Name Value)

def plainText : Value := ⟨Text.bytes "text/plain; charset=utf-8", by decide⟩
def jsonText : Value := ⟨Text.bytes "application/json", by decide⟩

def page (status : Nat) (type : Value) (body : String) : Response :=
  ⟨status, Fields.empty.append contentType type, Text.bytes body⟩

def indexPage : Response := page 200 plainText "header-guard"
def healthPage : Response := page 200 jsonText "\x7b\"status\":\"ok\"\x7d"
def notFoundPage : Response := page 404 plainText "Not Found"

def pages : Router :=
  ((Router.empty.route "/" indexPage).route "/health" healthPage).withFallback notFoundPage

/-- The pages with all layers, for one request that would get the id `fresh`. The layer that limits
the time of a request is left out: no page waits for anything, so it has nothing to answer. -/
def layered (chain : Chain) (fresh : Value) : Router :=
  (((pages.secure chain).layer propagateRequestId).layer trace).layer (setRequestId fresh)

structure Server where
  config : Config
  chain : Chain

namespace Server

/-- A server whose headers are declared apart from the configuration. -/
def withDeclaration (config : Config) (d : Declaration) : Server := ⟨config, d.build⟩

/-- A server whose headers come from its configuration, which has to be without faults. -/
def ofConfig (config : Config) : Except Config.LoadError Server := do
  let config ← Config.accept config
  match config.headers.declare with
  | .error e => .error (.header e)
  | .ok d => .ok (withDeclaration config d)

/-- The answer to a request that would get the id `fresh`. -/
def answer (s : Server) (fresh : Value) (request : Request) : Answer :=
  (layered s.chain fresh).answer request

end Server
end SecureHeaders.Http
