import SecureHeaders.Data
/-!
Writing JSON over several lines, two blanks to a level. What JSON has no notation for is written
as `null`.
-/

namespace SecureHeaders.Json

def hex4Text (n : Nat) : List Char :=
  let ds := Nat.toDigits 16 n
  List.replicate (4 - ds.length) '0' ++ ds

def escapeChar (c : Char) : List Char :=
  if c = '"' then ['\\', '"']
  else if c = '\\' then ['\\', '\\']
  else if c = '\x08' then ['\\', 'b']
  else if c = '\x0c' then ['\\', 'f']
  else if c = '\n' then ['\\', 'n']
  else if c = '\r' then ['\\', 'r']
  else if c = '\t' then ['\\', 't']
  else if c.toNat < 0x20 then '\\' :: 'u' :: hex4Text c.toNat
  else [c]

def textLiteral (s : String) : String :=
  String.ofList ('"' :: s.toList.flatMap escapeChar ++ ['"'])

def floatLiteral : Binary64 → String
  | .finite negative m e => Binary64.toText .scientific (.finite negative m e)
  | _ => "null"

def newLine (level : Nat) : String := "\n" ++ String.ofList (List.replicate (2 * level) ' ')

mutual

/-- A value whose first line stands `level` levels deep. -/
def write (level : Nat) : Data → String
  | .null | .moment => "null"
  | .bool b => if b then "true" else "false"
  | .int n => toString n
  | .float x => floatLiteral x
  | .text s => textLiteral s
  | .list [] | .tables [] => "[]"
  | .list (item :: rest) | .tables (item :: rest) =>
    "[" ++ newLine (level + 1) ++ write (level + 1) item ++ writeItems (level + 1) rest
      ++ newLine level ++ "]"
  | .map [] => "\x7b\x7d"
  | .map ((key, item) :: rest) =>
    "\x7b" ++ newLine (level + 1) ++ textLiteral key ++ ": " ++ write (level + 1) item
      ++ writeEntries (level + 1) rest ++ newLine level ++ "\x7d"

/-- Further items of an array, each on its own line after a comma. -/
def writeItems (level : Nat) : List Data → String
  | [] => ""
  | item :: rest => "," ++ newLine level ++ write level item ++ writeItems level rest

/-- Further entries of an object, each on its own line after a comma. -/
def writeEntries (level : Nat) : List (String × Data) → String
  | [] => ""
  | (key, item) :: rest =>
    "," ++ newLine level ++ textLiteral key ++ ": " ++ write level item
      ++ writeEntries level rest

end

def print (d : Data) : String := write 0 d

end SecureHeaders.Json
