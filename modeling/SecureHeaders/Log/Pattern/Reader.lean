import SecureHeaders.Log.Pattern.Class
import SecureHeaders.Text.Alphanumeric
/-!
Reading a pattern. Groups that are open are kept in a stack. A repetition with a count is never
read, as the brace that ends it would end the fields.
-/

namespace SecureHeaders.Log.Pattern

/-- Flags stand once each; a minus sign comes before those to be turned off, of which there is at
least one. -/
def areFlags (flags : List Char) : Bool :=
  flags.all (fun c => "-imsUuRx".toList.contains c) && decide flags.Nodup
    && flags.getLast? ≠ some '-'

/-- What flags say of one: on or off, if they name it. -/
def setting? (flags : List Char) (flag : Char) : Option Bool :=
  if flags.contains flag then some (!(flags.takeWhile fun c => c ≠ flag).contains '-') else none

structure OpenGroup where
  flags : List Char := []
  /-- Whether the pattern is extended around the group. -/
  outside : Bool := false
  /-- What may be chosen; the latest comes first. -/
  branches : List Pattern := []
  /-- The parts of the last branch; the latest comes first. -/
  parts : List Pattern := []

namespace OpenGroup

def add (g : OpenGroup) (p : Pattern) : OpenGroup := { g with parts := p :: g.parts }

def branch (g : OpenGroup) : OpenGroup :=
  { g with branches := sequence g.parts.reverse :: g.branches, parts := [] }

def pattern (g : OpenGroup) : Pattern := choice g.branch.branches.reverse

end OpenGroup

structure Progress where
  /-- Blanks and comments have no meaning. -/
  extended : Bool := false
  names : List (List Char) := []
  outer : List OpenGroup := []
  group : OpenGroup := {}

namespace Progress

def add (st : Progress) (p : Pattern) : Progress := { st with group := st.group.add p }

def enter (st : Progress) (flags : List Char) : Progress :=
  { st with
    extended := (setting? flags 'x').getD st.extended
    outer := st.group :: st.outer
    group := { flags, outside := st.extended } }

def leave (st : Progress) : Option Progress :=
  match st.outer with
  | [] => none
  | parent :: outer =>
    some
      { st with
        extended := st.group.outside
        outer
        group := parent.add (.group st.group.flags st.group.pattern) }

def repeatLast (st : Progress) : Option Progress :=
  match st.group.parts with
  | [] | .setFlags _ :: _ => none
  | p :: parts => some { st with group := { st.group with parts := .repetition p :: parts } }

end Progress

def isGroupName : List Char → Bool
  | [] => false
  | c :: s =>
    (c = '_' || Text.isAlphabetic c)
      && s.all fun c => "_.[]".toList.contains c || Text.isAlphanumeric c

/-- The group with the name at the start. Two groups have not the same name. -/
def namedGroup (st : Progress) (s : Input) : Option (Progress × Input) :=
  let inName (c : Char) : Bool := c ≠ '>'
  let name := s.takeWhile inName
  match s.dropWhile inName with
  | _ :: s =>
    if isGroupName name && !st.names.contains name then
      some ({ st with names := name :: st.names }.enter [], s)
    else none
  | [] => none

/-- The flags at the start, for a group or for the rest of the one that is open. -/
def flaggedGroup (st : Progress) (s : Input) : Option (Progress × Input) :=
  let isFlag (c : Char) : Bool := c ≠ ':' && c ≠ ')'
  let flags := s.takeWhile isFlag
  if areFlags flags then
    match s.dropWhile isFlag with
    | ':' :: s => some (st.enter flags, s)
    | _ :: s =>
      if flags.isEmpty then none
      else
        some
          ({ st with extended := (setting? flags 'x').getD st.extended }.add (.setFlags flags), s)
    | [] => none
  else none

def openGroup (st : Progress) (s : Input) : Option (Progress × Input) :=
  match skip st.extended s with
  | '?' :: 'P' :: '<' :: s | '?' :: '<' :: s => namedGroup st s
  | '?' :: s => flaggedGroup st s
  | s => some (st.enter [], s)

def skipLazy : Input → Input
  | '?' :: s => s
  | s => s

def readPart (st : Progress) (c : Char) (s : Input) : Option (Progress × Input) :=
  match c with
  | '(' => openGroup st s
  | ')' => st.leave.map fun st => (st, s)
  | '|' => some ({ st with group := st.group.branch }, s)
  | '[' => (charClass? st.extended s).map fun (p, s) => (st.add p, s)
  | '?' | '*' | '+' => st.repeatLast.map fun st => (st, skipLazy s)
  | '{' => none
  | '\\' => (escape st.extended s).map fun (p, s) => (st.add p, s)
  | '.' => some (st.add .dot, s)
  | '^' | '$' => some (st.add .textEdge, s)
  | c => some (st.add (.literal ⟨c, false⟩), s)

/-- Reads parts to the end. Each round reads a character or more, so the number of characters bounds
the number of rounds. -/
def readParts : Nat → Progress → Input → Option Progress
  | 0, _, _ => none
  | rounds + 1, st, s =>
    match skip st.extended s with
    | [] => some st
    | c :: s => do
      let (st, s) ← readPart st c s
      readParts rounds st s

def ofText? (s : Input) : Option Pattern := do
  let st ← readParts (s.length + 1) {} s
  if st.outer.isEmpty then some st.group.pattern else none

def plain (s : Input) : List Pattern := s.map fun c => .literal ⟨c, false⟩

theorem readPart_of_isAlphanum {c : Char} (h : c.isAlphanum = true) (st : Progress) (s : Input) :
    readPart st c s = some (st.add (.literal ⟨c, false⟩), s) := by
  unfold readPart
  split
  case h_13 => rfl
  all_goals exact absurd h (by decide)

theorem readParts_of_isAlphanum {s : Input} (h : ∀ c ∈ s, c.isAlphanum = true) {rounds : Nat}
    (enough : s.length < rounds) (ps : List Pattern) :
    readParts rounds { group := { parts := ps } } s
      = some { group := { parts := (plain s).reverse ++ ps } } := by
  induction s generalizing rounds ps with
  | nil =>
    obtain ⟨rounds, rfl⟩ := Nat.exists_eq_add_of_lt enough
    rfl
  | cons c s ih =>
    obtain ⟨rounds, rfl⟩ := Nat.exists_eq_add_of_lt enough
    have shorter : s.length < (c :: s).length + rounds := by
      rw [List.length_cons]
      omega
    have step := ih (fun d hd => h d (List.mem_cons_of_mem c hd)) shorter
      (.literal ⟨c, false⟩ :: ps)
    simp only [readParts, skip, Bool.false_eq_true, if_false]
    rw [readPart_of_isAlphanum (h c List.mem_cons_self)]
    simpa [plain, Progress.add, OpenGroup.add] using step

/-- A text of letters and digits spells itself. -/
theorem ofText?_of_isAlphanum {s : Input} (h : ∀ c ∈ s, c.isAlphanum = true) :
    ofText? s = some (sequence (plain s)) := by
  have read := readParts_of_isAlphanum h (Nat.lt_succ_self s.length) []
  unfold ofText?
  rw [show ({} : Progress) = { group := { parts := [] } } from rfl, read]
  simp [OpenGroup.pattern, OpenGroup.branch, choice]

end SecureHeaders.Log.Pattern
