import SecureHeaders.Chain.Declaration
/-!
The configuration: one section each for the listener, the timeouts, observability and the security
headers. Every field has a default, so the empty document is a configuration. The section of the
headers describes a declaration: the first custom header that is no header leaves none, whatever the
switches say.
-/

namespace SecureHeaders.Config

structure Listener where
  bindAddress : String := "0.0.0.0:8080"
deriving DecidableEq

structure Timeouts where
  /-- The total time for a request and its response, in seconds. -/
  requestSecs : UInt64 := 30
deriving DecidableEq

structure Observability where
  logLevel : String := "info"
  metricsEnabled : Bool := false
  metricsAddress : String := "0.0.0.0:9090"
deriving DecidableEq

/-- One policy header: whether it is declared, and the chosen member, if any. -/
structure PolicySection (P : Type) where
  enabled : Bool := true
  policy : Option P := none
deriving DecidableEq

structure CustomHeader where
  name : String
  values : List String
deriving DecidableEq

structure Headers where
  /-- The master switch: when it is off, no security header is written. -/
  enabled : Bool := true
  embedder : PolicySection EmbedderPolicy := {}
  referrer : PolicySection ReferrerPolicy := {}
  custom : List CustomHeader := []
deriving DecidableEq

def CustomHeader.header (c : CustomHeader) : Except HeaderError Header :=
  Header.ofText c.name c.values

/-- The custom headers in order, or the fault of the first one that is no header. -/
def readCustomHeaders : List CustomHeader → Except HeaderError (List Header)
  | [] => .ok []
  | c :: rest => do
    let h ← c.header
    let hs ← readCustomHeaders rest
    .ok (h :: hs)

def PolicySection.slot {P : Type} (c : PolicySection P) : Option (PolicySlot P) :=
  if c.enabled then some ⟨c.policy⟩ else none

def Headers.declare (c : Headers) : Except HeaderError Declaration := do
  let fixed ← readCustomHeaders c.custom
  .ok { disabled := !c.enabled, embedder := c.embedder.slot, referrer := c.referrer.slot, fixed }

end Config

structure Config where
  listener : Config.Listener := {}
  timeouts : Config.Timeouts := {}
  observability : Config.Observability := {}
  headers : Config.Headers := {}
deriving DecidableEq

end SecureHeaders
