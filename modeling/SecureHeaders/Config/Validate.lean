import SecureHeaders.Config.Schema
import SecureHeaders.Net.AddressReader
/-!
Faults of a configuration that its shape does not show: addresses that are none, a timeout of
zero, and custom headers that are invalid, managed by a section of their own, or given twice.
Every fault is reported, in the order of the document.
-/

namespace SecureHeaders.Config

open Header (Name)

/-- The fields that hold a socket address. -/
inductive AddressField where
  | bind
  | metrics
deriving DecidableEq

def AddressField.path : AddressField → String
  | bind => "listener.bind_address"
  | metrics => "observability.metrics_address"

inductive Fault where
  | invalidAddress (field : AddressField) (value : String)
  | zeroTimeout
  | invalidHeader (index : Nat) (source : HeaderError)
  | duplicateHeader (index : Nat) (name : Name)
  | managedHeader (index : Nat) (name : Name)
deriving DecidableEq

/-- The place of a custom header in the document. -/
def customPath (index : Nat) : String := "headers.custom[" ++ toString index ++ "]: "

def Fault.message : Fault → String
  | .invalidAddress field value => field.path ++ ": invalid socket address " ++ Text.quoted value
  | .zeroTimeout => "timeouts.request_secs must be greater than zero"
  | .invalidHeader index source => customPath index ++ source.message
  | .duplicateHeader index name => customPath index ++ "duplicate header " ++ name.text
  | .managedHeader index name => customPath index ++ name.text ++ " is managed by its own section"

example : (Fault.invalidHeader 2 (.invalidValue ⟨"x-note", by decide⟩ "a\n\"b\"")).message =
    "headers.custom[2]: invalid value \"a\\n\\\"b\\\"\" for header x-note" := by decide +kernel

def isSocketAddress (s : String) : Bool := (Net.SocketAddress.parse? s).isSome

/-- The headers that have a section of their own. -/
def managedNames : List Name := [EmbedderPolicy.name, ReferrerPolicy.name]

def addressFaults (c : Config) : List Fault :=
  (if isSocketAddress c.listener.bindAddress then []
    else [.invalidAddress .bind c.listener.bindAddress])
  ++ (if c.observability.metricsEnabled && !isSocketAddress c.observability.metricsAddress then
      [.invalidAddress .metrics c.observability.metricsAddress]
    else [])

def timeoutFaults (c : Config) : List Fault :=
  if c.timeouts.requestSecs = 0 then [.zeroTimeout] else []

/-- The faults of custom headers from the one with number `index` on. Only valid headers without a
section of their own count as seen. -/
def customFaults : Nat → List Name → List CustomHeader → List Fault
  | _, _, [] => []
  | index, seen, c :: rest =>
    match c.header with
    | .error source => .invalidHeader index source :: customFaults (index + 1) seen rest
    | .ok h =>
      if h.name ∈ managedNames then
        .managedHeader index h.name :: customFaults (index + 1) seen rest
      else if h.name ∈ seen then
        .duplicateHeader index h.name :: customFaults (index + 1) seen rest
      else customFaults (index + 1) (h.name :: seen) rest

end Config

/-- All faults of a configuration; it is valid when there is none. -/
def Config.faults (c : Config) : List Config.Fault :=
  Config.addressFaults c ++ Config.timeoutFaults c ++ Config.customFaults 0 [] c.headers.custom

end SecureHeaders
