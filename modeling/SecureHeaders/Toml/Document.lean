import SecureHeaders.Toml.Scalar
import SecureHeaders.Toml.Table
/-!
Values and documents. A value is a scalar, an array or an inline table: an array may span lines and
end in a comma; an inline table may not, and is closed to later lines. A document has lines that set
keys, and headers that open tables. `read?` gives the data of a document, or nothing where it is not
TOML.
-/

namespace SecureHeaders.Toml

def arrayItems (value : Input → Option (Data × Input)) :
    Nat → List Data → Input → Option (Data × Input)
  | 0, _, _ => none
  | fuel + 1, seen, s =>
    match skipLines s with
    | ']' :: s => some (.list seen.reverse, s)
    | s => do
      let (d, s) ← value s
      match skipLines s with
      | ',' :: s => arrayItems value fuel (d :: seen) s
      | ']' :: s => some (.list (d :: seen).reverse, s)
      | _ => none

/-- The entries of an inline table after its opening brace and a first look for its end. -/
def inlineEntries (value : Input → Option (Data × Input)) :
    Nat → Entries → Input → Option (Data × Input)
  | 0, _, _ => none
  | fuel + 1, seen, s => do
    let (path, s) ← keyPath s
    let s ← char '=' s
    let (d, s) ← value (skipSpace s)
    let seen ← seen.set path d
    match skipSpace s with
    | ',' :: s => inlineEntries value fuel seen s
    | '}' :: s => some (.map (entriesToData seen), s)
    | _ => none

/-- A value in which arrays and inline tables stand at most `depth` deep. -/
def valueWithin : Nat → Input → Option (Data × Input)
  | depth, s =>
    match s with
    | '[' :: s =>
      match depth with
      | 0 => none
      | depth + 1 => arrayItems (valueWithin depth) (s.length + 1) [] s
    | '{' :: s =>
      match depth with
      | 0 => none
      | depth + 1 =>
        match skipSpace s with
        | '}' :: s => some (.map [], s)
        | s => inlineEntries (valueWithin depth) (s.length + 1) [] s
    | s => scalar s

def value (s : Input) : Option (Data × Input) := valueWithin (nestingBound - 1) s

inductive Statement where
  | set (path : KeyPath) (d : Data)
  | table (path : KeyPath)
  /-- The header of the next table in an array of tables. -/
  | tables (path : KeyPath)

def setLine (s : Input) : Option (Statement × Input) := do
  let (path, s) ← keyPath s
  let s ← char '=' s
  let (d, s) ← value (skipSpace s)
  let s ← lineEnd s
  some (.set path d, s)

def tableLine (s : Input) : Option (Statement × Input) := do
  let (path, s) ← keyPath s
  let s ← char ']' s
  let s ← lineEnd s
  some (.table path, s)

def tablesLine (s : Input) : Option (Statement × Input) := do
  let (path, s) ← keyPath s
  let s ← exactly [']', ']'] s
  let s ← lineEnd s
  some (.tables path, s)

def statement : Input → Option (Statement × Input)
  | '[' :: '[' :: s => tablesLine s
  | '[' :: s => tableLine s
  | s => setLine s

def statements : Nat → Input → Option (List Statement)
  | 0, _ => none
  | fuel + 1, s =>
    match skipSpace s with
    | [] => some []
    | '#' :: s => do
      let s ← lineEnd ('#' :: s)
      statements fuel s
    | s =>
      match newline? s with
      | some s => statements fuel s
      | none => do
        let (line, s) ← statement s
        let rest ← statements fuel s
        some (line :: rest)

/-- The lines that set keys before the next header, and what is left. -/
def block : List Statement → List (KeyPath × Data) × List Statement
  | .set path d :: rest =>
    let (lines, rest) := block rest
    ((path, d) :: lines, rest)
  | rest => ([], rest)

/-- The tables of a document after the blocks of its headers, in at most `fuel` steps. -/
def assemble : Nat → List Statement → Entries → Option Entries
  | 0, _, _ => none
  | _ + 1, [], es => some es
  | fuel + 1, .set path d :: rest, es => do
    let es ← es.set path d
    assemble fuel rest es
  | fuel + 1, .table path :: rest, es => do
    let (lines, rest) := block rest
    let es ← es.define path lines
    assemble fuel rest es
  | fuel + 1, .tables path :: rest, es => do
    let (lines, rest) := block rest
    let es ← es.extend path lines
    assemble fuel rest es

/-- A byte order mark in front of a document is skipped. -/
def skipMark : Input → Input
  | c :: s => if c.toNat = 0xFEFF then s else c :: s
  | [] => []

def read? (text : String) : Option Data := do
  let s := skipMark text.toList
  let lines ← statements (s.length + 1) s
  let es ← assemble (lines.length + 1) lines []
  some (.map (entriesToData es))

end SecureHeaders.Toml
