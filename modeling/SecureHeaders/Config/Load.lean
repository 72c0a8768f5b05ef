import SecureHeaders.Config.Decode
import SecureHeaders.Config.Validate
import SecureHeaders.Toml.Document
import SecureHeaders.Text.Basic
/-!
Loading a configuration: from the bytes of a file to TOML, from there to a configuration, and on
only if that has no fault.
-/

namespace SecureHeaders.Config

open Text (Bytes)

/-- What stands at a path. -/
inductive Content where
  | missing
  | directory
  /-- The path goes on behind something that is no directory. -/
  | notDirectory
  /-- A name in the path is too long to name anything. -/
  | nameTooLong
  | file (bytes : Bytes)

inductive ReadFailure where
  | missing
  | directory
  | notDirectory
  | nameTooLong
  | notUtf8
deriving DecidableEq

def ReadFailure.message : ReadFailure → String
  | .missing => "No such file or directory (os error 2)"
  | .directory => "Is a directory (os error 21)"
  | .notDirectory => "Not a directory (os error 20)"
  | .nameTooLong => "File name too long (os error 36)"
  | .notUtf8 => "stream did not contain valid UTF-8"

inductive LoadError where
  | io (failure : ReadFailure)
  | notToml
  | mismatch (m : Mismatch)
  | invalid (faults : List Fault)
  | header (e : HeaderError)
deriving DecidableEq

/-- The text of an error. That of `notToml` stands for the own text of a TOML reader, which tells
place and cause, and a mismatch comes without the lines of the document that such a reader puts
around it. -/
def LoadError.message : LoadError → String
  | .io failure => "IO error: " ++ failure.message
  | .notToml => "Parse error: not a TOML document"
  | .mismatch m => "Parse error: " ++ m.message .toml
  | .invalid faults =>
    "Validation failed: " ++ String.intercalate ", " (faults.map Fault.message)
  | .header e => "Header error: " ++ e.message

def Content.text : Content → Except ReadFailure String
  | .missing => .error .missing
  | .directory => .error .directory
  | .notDirectory => .error .notDirectory
  | .nameTooLong => .error .nameTooLong
  | .file bytes =>
    match Text.ofBytes? bytes with
    | some s => .ok s
    | none => .error .notUtf8

def accept (c : Config) : Except LoadError Config :=
  match c.faults with
  | [] => .ok c
  | faults => .error (.invalid faults)

def parse (text : String) : Except LoadError Config :=
  match Toml.read? text with
  | none => .error .notToml
  | some d =>
    match decode .toml d with
    | .error m => .error (.mismatch m)
    | .ok c => accept c

def load (content : Content) : Except LoadError Config :=
  match content.text with
  | .error failure => .error (.io failure)
  | .ok text => parse text

end SecureHeaders.Config
