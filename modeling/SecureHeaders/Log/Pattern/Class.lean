import SecureHeaders.Log.Pattern.Basic
import SecureHeaders.Text.Basic
/-!
Reading the small parts of a pattern: blanks, escapes and classes of characters. Escapes with braces
are not among them, as the brace that closes one would end the fields, nor are those for a category
of characters, which are not supported. Classes stand in each other, so those that are open are kept
in a stack.
-/

namespace SecureHeaders.Log.Pattern

abbrev Input := List Char

mutual

def skipBlank : Input → Input
  | [] => []
  | c :: s => if Text.isBlank c then skipBlank s else if c = '#' then skipComment s else c :: s

def skipComment : Input → Input
  | [] => []
  | c :: s => if c = '\n' then skipBlank s else skipComment s

end

/-- In an extended pattern blanks and comments have no meaning. -/
def skip (extended : Bool) (s : Input) : Input := if extended then skipBlank s else s

/-- How many hexadecimal digits follow, if the escape is one by code point. -/
def codeDigits? : Char → Option Nat
  | 'x' => some 2
  | 'u' => some 4
  | 'U' => some 8
  | _ => none

/-- The character with the code point in so many hexadecimal digits, after those read so far. -/
def codePoint (extended : Bool) : Nat → Nat → Input → Option (Char × Input)
  | 0, n, s => (Text.scalar? n).map fun c => (c, skip extended s)
  | digits + 1, n, s =>
    match skip extended s with
    | [] => none
    | c :: s => do
      let digit ← Text.hexDigit? c
      codePoint extended digits (n * 16 + digit) s

def letterEscape? (c : Char) : Option Pattern :=
  match c with
  | 'd' | 's' | 'w' => some (.shorthand false)
  | 'D' | 'S' | 'W' => some (.shorthand true)
  | 'A' | 'z' => some .textEdge
  | 'b' | 'B' | '<' | '>' => some .wordEdge
  | 'a' => some (.literal ⟨'\x07', false⟩)
  | 'f' => some (.literal ⟨'\x0c', false⟩)
  | 'n' => some (.literal ⟨'\n', false⟩)
  | 'r' => some (.literal ⟨'\r', false⟩)
  | 't' => some (.literal ⟨'\t', false⟩)
  | 'v' => some (.literal ⟨'\x0b', false⟩)
  | c => if c.toNat < 0x80 ∧ !c.isAlphanum then some (.literal ⟨c, false⟩) else none

def escape (extended : Bool) : Input → Option (Pattern × Input)
  | [] => none
  | c :: s =>
    match codeDigits? c with
    | some digits => do
      let (d, s) ← codePoint extended digits 0 s
      some (.literal ⟨d, c = 'x'⟩, s)
    | none => (letterEscape? c).map fun p => (p, s)

def literal? : Pattern → Option Literal
  | .literal l => some l
  | _ => none

def member? : Pattern → Option Member
  | .literal l => some (.literal l)
  | .shorthand negated => some (.shorthand negated)
  | _ => none

def classItem (extended : Bool) : Input → Option (Pattern × Input)
  | [] => none
  | '\\' :: s => escape extended s
  | c :: s => some (.literal ⟨c, false⟩, s)

/-- The next character with a meaning; of a comment it is the first one that is not blank. -/
def lookAhead (extended : Bool) (s : Input) : Option Char :=
  if extended then
    match s.dropWhile Text.isBlank with
    | '#' :: s => (s.dropWhile Text.isBlank).head?
    | s => s.head?
  else s.head?

/-- A member of a class, with a range if a dash follows that neither ends the class nor stands
twice. -/
def member (extended : Bool) (s : Input) : Option (Member × Input) := do
  let (low, s) ← classItem extended s
  match skip extended s with
  | [] => none
  | '-' :: rest =>
    let next := lookAhead extended rest
    if next = some ']' ∨ next = some '-' then (member? low).map fun m => (m, '-' :: rest)
    else
      let (high, s) ← classItem extended (skip extended rest)
      let low ← literal? low
      let high ← literal? high
      if low.char ≤ high.char then some (.range low high, s) else none
  | s => (member? low).map fun m => (m, s)

def classNames : List String :=
  ["alnum", "alpha", "ascii", "blank", "cntrl", "digit", "graph", "lower", "print", "punct",
    "space", "upper", "word", "xdigit"]

def namedClass? (s : Input) : Option (Bool × Input) :=
  match s with
  | ':' :: s =>
    let (negated, s) := match s with
      | '^' :: s => (true, s)
      | s => (false, s)
    let isName (c : Char) : Bool := c ≠ ':'
    match s.dropWhile isName with
    | ':' :: ']' :: rest =>
      if classNames.contains (String.ofList (s.takeWhile isName)) then some (negated, rest)
      else none
    | _ => none
  | _ => none

structure OpenClass where
  negated : Bool
  /-- Nothing but dashes has been read. -/
  fresh : Bool := true
  /-- What is combined with the members. -/
  left : Option CharSet := none
  /-- The latest member comes first. -/
  members : List Member := []

namespace OpenClass

def add (o : OpenClass) (m : Member) : OpenClass := { o with members := m :: o.members }

/-- Ends the time at which dashes and a closing bracket stand for themselves. -/
def begun (o : OpenClass) : OpenClass := { o with fresh := false }

def set (o : OpenClass) : CharSet :=
  let right := CharSet.union o.members.reverse
  match o.left with
  | none => right
  | some left => .combine left right

def combined (o : OpenClass) : OpenClass := { o with left := some o.set, members := [] }

end OpenClass

def opened (extended : Bool) (s : Input) : OpenClass × Input :=
  match skip extended s with
  | '^' :: s => (⟨true, true, none, []⟩, s)
  | s => (⟨false, true, none, []⟩, s)

def isCombining (c : Char) : Bool := c = '&' || c = '-' || c = '~'

/-- The rest of a class, inside of `outer` others that are open. Each round reads a character or
more, so the number of characters bounds the number of rounds. -/
def classRest (extended : Bool) :
    Nat → List OpenClass → OpenClass → Input → Option (Pattern × Input)
  | 0, _, _, _ => none
  | rounds + 1, outer, o, s =>
    match skip extended s with
    | [] => none
    | c :: s =>
      if o.fresh && c = '-' then classRest extended rounds outer (o.add (.literal ⟨c, false⟩)) s
      else if o.fresh && o.members.isEmpty && c = ']' then
        classRest extended rounds outer (o.begun.add (.literal ⟨c, false⟩)) s
      else if c = '[' then
        match namedClass? s with
        | some (negated, s) => classRest extended rounds outer (o.begun.add (.named negated)) s
        | none =>
          let (inner, s) := opened extended s
          classRest extended rounds (o.begun :: outer) inner s
      else if c = ']' then
        match outer with
        | [] => some (.charClass o.negated o.set, s)
        | parent :: outer =>
          classRest extended rounds outer (parent.add (.nested o.negated o.set)) s
      else if isCombining c && s.head? = some c then
        classRest extended rounds outer o.begun.combined s.tail
      else do
        let (m, s) ← member extended (c :: s)
        classRest extended rounds outer (o.begun.add m) s

def charClass? (extended : Bool) (s : Input) : Option (Pattern × Input) :=
  let (o, s) := opened extended s
  classRest extended (s.length + 1) [] o s

end SecureHeaders.Log.Pattern
