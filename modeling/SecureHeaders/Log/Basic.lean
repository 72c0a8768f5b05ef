import SecureHeaders.Text.Quoted
/-!
Log events: a level, the target that speaks, a message and named fields, written on one line.
-/

namespace SecureHeaders.Log

inductive Level where
  | trace
  | debug
  | info
  | warn
  | error
deriving DecidableEq

namespace Level

def text : Level → String
  | trace => "TRACE"
  | debug => "DEBUG"
  | info => "INFO"
  | warn => "WARN"
  | error => "ERROR"

def severity : Level → Nat
  | trace => 0
  | debug => 1
  | info => 2
  | warn => 3
  | error => 4

end Level

inductive FieldValue where
  /-- A text, shown in quotes. -/
  | quoted (s : String)
  /-- Anything that is shown as it displays. -/
  | plain (s : String)
deriving DecidableEq

def FieldValue.text : FieldValue → String
  | quoted s => Text.quoted s
  | plain s => s

structure Event where
  level : Level
  target : String
  message : String
  fields : List (String × FieldValue) := []
deriving DecidableEq

namespace Event

def line (e : Event) : String :=
  e.level.text ++ " " ++ e.target ++ ": " ++ e.message
    ++ String.join (e.fields.map fun f => " " ++ f.1 ++ "=" ++ f.2.text)

/-- The names of the fields; the message counts as one. -/
def fieldNames (e : Event) : List String := "message" :: e.fields.map Prod.fst

end Event

/-- The least severity that passes; with `none` nothing does. -/
abbrev Threshold := Option Level

def Threshold.passes : Threshold → Level → Bool
  | none, _ => false
  | some least, level => least.severity ≤ level.severity

end SecureHeaders.Log
