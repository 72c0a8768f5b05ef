import SecureHeaders.Toml.Text
import SecureHeaders.Data
/-!
Tables under construction. What a later line may still do to a table hangs on how it came about:
a table with a header of its own is closed to dotted keys from outside, a table that only stands
on the way to another may still get a header, and a table made by dotted keys is open to dotted
keys alone.
-/

namespace SecureHeaders.Toml

inductive Origin where
  /-- By its own header, or as the table that a line stands in. -/
  | defined
  /-- On the way to a table with a header. -/
  | implied
  /-- By dotted keys. -/
  | dotted
deriving DecidableEq

inductive Item where
  | value (d : Data)
  | table (origin : Origin) (entries : List (String × Item))
  /-- An array of tables, in reverse: the last one comes first. -/
  | tables (last : List (String × Item)) (earlier : List (List (String × Item)))

abbrev Entries := List (String × Item)

namespace Entries

def get? (es : Entries) (key : String) : Option Item :=
  (es.find? fun e => e.1 == key).map Prod.snd

def add (es : Entries) (key : String) (item : Item) : Entries := es ++ [(key, item)]

def replace (es : Entries) (key : String) (item : Item) : Entries :=
  es.map fun e => if e.1 == key then (key, item) else e

def erase (es : Entries) (key : String) : Entries := es.filter fun e => e.1 != key

/-- Changes the table at the end of a path, which starts in a table of the given origin. Tables
that are missing on the way are made. A path of dotted keys does not lead through tables with
headers of their own; in an array of tables every path leads through the last one. -/
def update (byDots : Bool) (change : Origin → Entries → Option Entries) :
    List String → Origin → Entries → Option Entries
  | [], origin, es => change origin es
  | key :: path, _, es =>
    match es.get? key with
    | none => do
      let made := if byDots then Origin.dotted else .implied
      let sub ← update byDots change path made []
      some (es.add key (.table made sub))
    | some (.value _) => none
    | some (.tables last earlier) => do
      let last ← update byDots change path .defined last
      some (es.replace key (.tables last earlier))
    | some (.table origin sub) =>
      if byDots ∧ origin = .defined then none
      else do
        let sub ← update byDots change path origin sub
        some (es.replace key (.table origin sub))

/-- Sets the value of a key. A dotted key ends in a table made by dotted keys, and no key is set
twice. -/
def set (es : Entries) (path : KeyPath) (d : Data) : Option Entries :=
  update true (fun origin es =>
      if origin ≠ .dotted ∧ path.tables ≠ [] then none
      else if (es.get? path.key).isSome then none
      else some (es.add path.key (.value d)))
    path.tables .defined es

def setAll (es : Entries) : List (KeyPath × Data) → Option Entries
  | [] => some es
  | (path, d) :: rest => do
    let es ← es.set path d
    es.setAll rest

/-- The table of a header with its lines. A table that was only implied keeps what it holds and
moves to the end; any other thing under the key is in the way. -/
def define (es : Entries) (path : KeyPath) (lines : List (KeyPath × Data)) : Option Entries :=
  update false (fun _ es => do
      let before ← match es.get? path.key with
        | none => some []
        | some (.table .implied sub) => some sub
        | some _ => none
      let sub ← setAll before lines
      some ((es.erase path.key).add path.key (.table .defined sub)))
    path.tables .defined es

def extend (es : Entries) (path : KeyPath) (lines : List (KeyPath × Data)) : Option Entries :=
  update false (fun _ es => do
      let sub ← setAll [] lines
      match es.get? path.key with
      | none => some (es.add path.key (.tables sub []))
      | some (.tables last earlier) => some (es.replace path.key (.tables sub (last :: earlier)))
      | some _ => none)
    path.tables .defined es

end Entries

mutual

def Item.toData : Item → Data
  | .value d => d
  | .table _ es => .map (entriesToData es)
  | .tables last earlier => .tables (tablesToData earlier [.map (entriesToData last)])

def entriesToData : List (String × Item) → List (String × Data)
  | [] => []
  | (key, item) :: rest => (key, item.toData) :: entriesToData rest

/-- Tables from the last to the first, in front of those already turned. -/
def tablesToData : List (List (String × Item)) → List Data → List Data
  | [], turned => turned
  | es :: earlier, turned => tablesToData earlier (.map (entriesToData es) :: turned)

end

end SecureHeaders.Toml
