import SecureHeaders.Cli.Check
import SecureHeaders.Http.Server
import SecureHeaders.Log.Filter
import SecureHeaders.Net.Address
/-!
The serve command, as far as it can be seen from outside: the events of starting, and those of
stopping after a signal. The machine that it runs on is a parameter: it says which addresses a
process may take.
-/

namespace SecureHeaders.Cli

open Config (Content LoadError)
open Net (SocketAddress)
open Log (Event)

inductive Refusal where
  | permissionDenied
  | noSuchDevice
  | invalidArgument
  | addressInUse
  | addressNotAvailable
deriving DecidableEq

def Refusal.message : Refusal → String
  | .permissionDenied => "Permission denied (os error 13)"
  | .noSuchDevice => "No such device (os error 19)"
  | .invalidArgument => "Invalid argument (os error 22)"
  | .addressInUse => "Address already in use (os error 98)"
  | .addressNotAvailable => "Cannot assign requested address (os error 99)"

structure Host where
  /-- Takes an address, beside those that the process has taken already. -/
  bind : List SocketAddress → SocketAddress → Except Refusal Unit

namespace Host

/-- Ports below this bound, zero excepted, need a privilege. -/
def privilegedBound : Nat := 1024

def isPrivileged (address : SocketAddress) : Bool :=
  address.port != 0 && address.port.toNat < privilegedBound

def loopback : UInt32 := 1

/-- What a machine without a working interface has against an address. It asks for no interface
behind IPv4 addresses, nor behind those that stand for all of the machine. -/
def isolatedObjection? : SocketAddress → Option Refusal
  | .v4 _ _ => none
  | .v6 ip scope _ =>
    if ip.isUnspecified || ip.mapped?.isSome then none
    else if ip.isLinkLocal && scope == 0 then some .invalidArgument
    else if ip.isLinkLocal && scope != loopback then some .noSuchDevice
    else some .addressNotAvailable

def isMulticastV6 : SocketAddress → Bool
  | .v4 _ _ => false
  | .v6 ip _ _ => ip.isMulticast

/-- A machine without a working interface, and a process without privileges. -/
def isolated : Host where
  bind taken address :=
    if isMulticastV6 address then .error .invalidArgument
    else if isPrivileged address then .error .permissionDenied
    else
      match isolatedObjection? address with
      | some refusal => .error refusal
      | none => if taken.any address.overlaps then .error .addressInUse else .ok ()

end Host

inductive Signal where
  | interrupt
  | terminate
deriving DecidableEq

def Signal.name : Signal → String
  | .interrupt => "SIGINT"
  | .terminate => "SIGTERM"

inductive StartError where
  | config (e : LoadError)
  | metricsAddress (given : String)
  | metrics (refusal : Refusal)
  | bindAddress
  | bind (refusal : Refusal)

def StartError.message : StartError → String
  | .config e => e.message
  | .metricsAddress given => "invalid metrics address " ++ Text.quoted given
  | .metrics refusal =>
    "metrics exporter: failed to create HTTP listener: " ++ refusal.message
  | .bindAddress => "IO error: invalid socket address"
  | .bind refusal => "IO error: " ++ refusal.message

def loaded (c : Config) : Event :=
  { level := .info, target := "header_guard", message := "Configuration loaded"
    fields := [("bind_address", .plain c.listener.bindAddress),
      ("request_timeout_secs", .plain (toString c.timeouts.requestSecs.toNat))] }

def writerRegistered (kind : String) : Event :=
  { level := .debug, target := "header_guard::security::dsl"
    message := "Registered header writer", fields := [("writer", .quoted kind)] }

def chainEmptied : Event :=
  { level := .debug, target := "header_guard::security::dsl"
    message := "Security headers disabled; chain is empty" }

def buildEvents (d : Declaration) : List Event :=
  if d.disabled then [chainEmptied] else d.build.kinds.map writerRegistered

def headerEnabled (h : Header) : Event :=
  { level := .info, target := "header_guard::lifecycle::startup"
    message := "Security header enabled", fields := [("header", .plain h.display)] }

def metricsListening (address : SocketAddress) : Event :=
  { level := .info, target := "header_guard::observability::metrics"
    message := "Metrics endpoint listening", fields := [("address", .plain address.print)] }

def starting (address : SocketAddress) (writers : Nat) : Event :=
  { level := .info, target := "header_guard::http::server", message := "HTTP server starting"
    fields := [("address", .plain address.print), ("header_writers", .plain (toString writers))] }

/-- What the listener says of its end, when no connection is open. -/
def draining : List Event :=
  ["received graceful shutdown signal. Telling tasks to shutdown",
    "signal received, not accepting new connections",
    "waiting for 0 task(s) to finish"].map fun message =>
      { level := .trace, target := "axum::serve", message }

def stopping (signal : Signal) : List Event :=
  [{ level := .info, target := "header_guard::lifecycle::signals", message := "Signal received"
     fields := [("signal", .quoted signal.name)] },
   { level := .info, target := "header_guard::http::server"
     message := "Shutdown signal received" }]
  ++ draining
  ++ [{ level := .info, target := "header_guard::http::server", message := "HTTP server stopped" },
   { level := .info, target := "header_guard", message := "Shutdown complete" }]

def fatal (message : String) : Event :=
  { level := .error, target := "header_guard", message := "Fatal error"
    fields := [("error", .plain message)] }

/-- Opens the metrics endpoint if it is wanted, and tells which addresses are taken then. -/
def startMetrics (host : Host) (c : Config.Observability) :
    List Event × Except StartError (List SocketAddress) :=
  if c.metricsEnabled then
    match SocketAddress.parse? c.metricsAddress with
    | none => ([], .error (.metricsAddress c.metricsAddress))
    | some address =>
      match host.bind [] address with
      | .error refusal => ([], .error (.metrics refusal))
      | .ok () => ([metricsListening address], .ok [address])
  else ([], .ok [])

/-- Takes the address of the listener; it is the last thing to start. -/
def startListener (host : Host) (taken : List SocketAddress) (c : Config) (chain : Chain) :
    List Event × Except StartError Unit :=
  match SocketAddress.parse? c.listener.bindAddress with
  | none => ([], .error .bindAddress)
  | some address =>
    match host.bind taken address with
    | .error refusal => ([], .error (.bind refusal))
    | .ok () => ([starting address chain.size], .ok ())

/-- Builds the server, then starts the metrics endpoint and the listener. -/
def startServer (host : Host) (c : Config) : List Event × Except StartError Unit :=
  match Http.Server.ofConfig c with
  | .error e => ([], .error (.config e))
  | .ok server =>
    let built := match c.headers.declare with
      | .ok d => buildEvents d
      | .error _ => []
    let enabled := server.chain.headers.map headerEnabled
    match startMetrics host c.observability with
    | (metrics, .error e) => (built ++ enabled ++ metrics, .error e)
    | (metrics, .ok taken) =>
      let (listener, result) := startListener host taken c server.chain
      (built ++ enabled ++ metrics ++ listener, result)

inductive Start where
  /-- The configuration was not loaded, so there is no log. -/
  | unloaded (e : LoadError)
  | failed (logging : Config.Observability) (events : List Event) (e : StartError)
  /-- The server answers requests until a signal arrives. -/
  | serving (logging : Config.Observability) (events : List Event)

def override (c : Config) : Option SocketAddress → Config
  | none => c
  | some address => { c with listener := { bindAddress := address.print } }

def start (host : Host) (content : Option Content) (bind : Option SocketAddress) : Start :=
  match readConfig content with
  | .error e => .unloaded e
  | .ok c =>
    let c := override c bind
    match startServer host c with
    | (events, .error e) => .failed c.observability (loaded c :: events ++ [fatal e.message]) e
    | (events, .ok ()) => .serving c.observability (loaded c :: events)

/-- What can be seen of a serve command: a report, or the output of a server that is up and the
output that the signal to stop will add. -/
inductive Outcome where
  | finished (report : Report)
  | serving (stdout stderr : String) (afterSignal : Signal → String)

def serve (host : Host) (content : Option Content) (bind : Option SocketAddress) : Outcome :=
  match start host content bind with
  | .unloaded e => .finished (failed e.message)
  | .failed logging events e =>
    .finished
      { exit := 1, stdout := Log.render logging events
        stderr := Log.complaints logging ++ "error: " ++ e.message ++ "\n" }
  | .serving logging events =>
    .serving (Log.render logging events) (Log.complaints logging)
      fun signal => Log.render logging (stopping signal)

end SecureHeaders.Cli
