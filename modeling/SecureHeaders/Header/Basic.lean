import SecureHeaders.Header.Name
import SecureHeaders.Header.Value
import SecureHeaders.Text.Basic
import SecureHeaders.Text.Quoted
/-!
Headers: a name with one or more values, ready to be written onto a response. `Header.ofText`
reads one from texts and reports the first fault it meets: an empty name, a name that is no
token, the first value that cannot stand in a header, and last that there is no value.
-/

namespace SecureHeaders

open Header (Name Value)

structure Header where
  name : Name
  values : List Value
  hasValue : values ≠ []
deriving DecidableEq

/-- Why a name and values do not make a header. -/
inductive HeaderError where
  | emptyName
  | invalidName (given : String)
  | invalidValue (name : Name) (value : String)
  | noValues (name : Name)
deriving DecidableEq

def HeaderError.message : HeaderError → String
  | .emptyName => "header name is required"
  | .invalidName given => "invalid header name: " ++ Text.quoted given
  | .invalidValue name value =>
    "invalid value " ++ Text.quoted value ++ " for header " ++ name.text
  | .noValues name => "header " ++ name.text ++ " needs at least one value"

namespace Header

/-- The values that texts spell, or the first text that spells none. -/
def readValues : List String → Except String (List Value)
  | [] => .ok []
  | s :: rest =>
    match Value.ofText? s with
    | none => .error s
    | some v => (readValues rest).map (v :: ·)

/-- The header with this name and these values, or the first fault. -/
def ofText (name : String) (values : List String) : Except HeaderError Header :=
  if Text.isAllBlank name then .error .emptyName
  else
    match Name.ofText? name with
    | none => .error (.invalidName name)
    | some n =>
      match readValues values with
      | .error v => .error (.invalidValue n v)
      | .ok [] => .error (.noValues n)
      | .ok (v :: vs) => .ok ⟨n, v :: vs, by simp⟩

def single (name : Name) (value : Value) : Header := ⟨name, [value], by simp⟩

/-- The header as one line: its name, then its values with commas between them. -/
def display (h : Header) : String :=
  h.name.text ++ ": " ++ String.intercalate ", " (h.values.map Value.display)

instance : ToString Header := ⟨display⟩

end Header
end SecureHeaders
