import SecureHeaders.Data
import SecureHeaders.Text.Quoted
/-!
How a tree of data can fail to be a configuration, and the texts that say so.
-/

namespace SecureHeaders

/-- The notations in which a configuration document is written. They differ in how a member of a
policy is spelled, in surplus positions, and in how numbers are shown. -/
inductive Format where
  | json
  | toml
deriving DecidableEq

namespace Format

def layout : Format → Binary64.Layout
  | json => .scientific
  | toml => .plain

end Format

/-- What stands at a place of a tree, without what is inside it. A moment counts as a map. -/
inductive Data.Kind where
  | null
  | bool (b : Bool)
  | int (n : Int)
  | float (x : Binary64)
  | text (s : String)
  | list
  | map
deriving DecidableEq

namespace Data

def kind : Data → Kind
  | .null => .null
  | .bool b => .bool b
  | .int n => .int n
  | .float x => .float x
  | .text s => .text s
  | .list _ | .tables _ => .list
  | .map _ | .moment => .map

def ticked (s : String) : String := "`" ++ s ++ "`"

def Kind.describe (format : Format) : Kind → String
  | .null => "null"
  | .bool b => "boolean " ++ ticked (if b then "true" else "false")
  | .int n => "integer " ++ ticked (toString n)
  | .float x => "floating point " ++ ticked (x.toText format.layout)
  | .text s => "string " ++ Text.quoted s
  | .list => "sequence"
  | .map => "map"

def typeName : Data → String
  | .null => "null"
  | .bool _ => "boolean"
  | .int _ => "integer"
  | .float _ => "float"
  | .text _ => "string"
  | .moment => "datetime"
  | .list _ => "array"
  | .tables _ => "array of tables"
  | .map _ => "table"

end Data

namespace Config

inductive Mismatch where
  | wrongType (found : Data.Kind) (expected : String)
  | wrongValue (found : Data.Kind) (expected : String)
  | wrongLength (found : Nat) (expected : String)
  | missingField (key : String)
  | unknownVariant (given : String) (known : List String)
  | noTextOrTable
  /-- A policy is a table that has not exactly one entry. -/
  | entryCount (several : Bool)
  /-- The entry of a policy table holds something. -/
  | fullTable
  /-- The entry of a policy table is an array of tables. -/
  | fullArray
  | noTable (found : String)
deriving DecidableEq

def Mismatch.message (format : Format) : Mismatch → String
  | .wrongType found expected =>
    "invalid type: " ++ found.describe format ++ ", expected " ++ expected
  | .wrongValue found expected =>
    "invalid value: " ++ found.describe format ++ ", expected " ++ expected
  | .wrongLength found expected =>
    "invalid length " ++ toString found ++ ", expected " ++ expected
  | .missingField key => "missing field " ++ Data.ticked key
  | .unknownVariant given known =>
    "unknown variant " ++ Data.ticked given ++ ", expected one of "
      ++ String.intercalate ", " (known.map Data.ticked)
  | .noTextOrTable => "wanted string or table"
  | .entryCount several =>
    "wanted exactly 1 element, " ++ if several then "more than 1 element" else "found 0 elements"
  | .fullTable => "expected empty table"
  | .fullArray => "expected empty array"
  | .noTable found => "expected table, found " ++ found

end Config
end SecureHeaders
