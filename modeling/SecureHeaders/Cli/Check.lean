import SecureHeaders.Config.Load
import SecureHeaders.Json.Printer
/-!
The check command: it loads a configuration and lists the headers that a response without any of
them would receive, as lines or as JSON.
-/

namespace SecureHeaders.Cli

open Config (Content LoadError)

/-- What a finished command leaves behind. -/
structure Report where
  exit : Nat
  stdout : String := ""
  stderr : String := ""
deriving DecidableEq

/-- The configuration of a command; without a file it is the default one. -/
def readConfig : Option Content → Except LoadError Config
  | none => .ok {}
  | some content => Config.load content

def listHeaders (content : Option Content) : Except LoadError (List Header) := do
  let config ← readConfig content
  match config.headers.declare with
  | .error e => .error (.header e)
  | .ok d => .ok d.build.headers

/-- A header as JSON data; values that are not text are left out. -/
def headerData (h : Header) : Data :=
  .map [("name", .text h.name.text),
    ("values", .list (h.values.filterMap fun v => v.text?.map Data.text))]

def noHeaders : String := "No security headers will be written."

def headerLines (hs : List Header) : List String :=
  if hs.isEmpty then [noHeaders] else hs.map Header.display

def listing (json : Bool) (hs : List Header) : String :=
  if json then Json.print (.list (hs.map headerData)) ++ "\n"
  else String.join ((headerLines hs).map fun line => line ++ "\n")

def failed (message : String) : Report := { exit := 1, stderr := "error: " ++ message ++ "\n" }

def check (content : Option Content) (json : Bool) : Report :=
  match listHeaders content with
  | .error e => failed e.message
  | .ok hs => { exit := 0, stdout := listing json hs }

end SecureHeaders.Cli
