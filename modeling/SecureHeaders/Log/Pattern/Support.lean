import SecureHeaders.Log.Pattern.Reader
/-!
Which patterns work. Tables of characters beyond ASCII are not at hand, so a pattern does not
work if it asks for the other case of a character, or for digits, blanks or words, of all scripts.
With the flag for it turned off it speaks of bytes, and then it does not work if it may match half
of a character. Main statement: a text of letters and digits is a pattern that works,
`fault?_eq_none`.
-/

namespace SecureHeaders.Log.Pattern

inductive Fault where
  | malformed
  | wordEdge
deriving DecidableEq

def Fault.message : Fault → String
  | .malformed => "error building NFA"
  | .wordEdge =>
    "unsupported regex feature for DFAs: cannot build DFAs for regexes with Unicode word "
      ++ "boundaries; switch to ASCII word boundaries, or heuristically enable Unicode word "
      ++ "boundaries or use a different regex engine"

structure Flags where
  /-- Characters of all scripts, or bytes. -/
  unicode : Bool := true
  /-- The case of letters does not matter. -/
  caseless : Bool := false
deriving DecidableEq

def Flags.update (f : Flags) (flags : List Char) : Flags :=
  { unicode := (setting? flags 'u').getD f.unicode
    caseless := (setting? flags 'i').getD f.caseless }

def Literal.works (l : Literal) (f : Flags) : Bool :=
  if f.unicode then !f.caseless else !(l.byByte && 0x80 ≤ l.char.toNat)

def Literal.worksInClass (l : Literal) (f : Flags) : Bool :=
  if f.unicode then !f.caseless else l.char.toNat < 0x80

mutual

/-- Where a pattern speaks of bytes, what a class leaves out is half of characters. -/
def Member.works (f : Flags) : Member → Bool
  | .literal l => l.worksInClass f
  | .range low high => low.worksInClass f && high.worksInClass f
  | .named negated => if f.unicode then !f.caseless else !negated
  | .shorthand negated => !f.unicode && !negated
  | .nested negated set => (f.unicode || !negated) && set.works f

def CharSet.works (f : Flags) : CharSet → Bool
  | .union members => allWork f members
  | .combine left right => left.works f && right.works f

def allWork (f : Flags) : List Member → Bool
  | [] => true
  | m :: ms => m.works f && allWork f ms

end

/-- The flags at a place of a pattern, and whether an edge of a word of any script came before. -/
structure Scope where
  flags : Flags := {}
  wordEdge : Bool := false
deriving DecidableEq

mutual

def scope? (c : Scope) : Pattern → Option Scope
  | .empty | .textEdge => some c
  | .setFlags flags => some { c with flags := c.flags.update flags }
  | .literal l => if l.works c.flags then some c else none
  | .dot => if c.flags.unicode then some c else none
  | .wordEdge => some { c with wordEdge := c.wordEdge || c.flags.unicode }
  | .shorthand negated => if (Member.shorthand negated).works c.flags then some c else none
  | .charClass negated set => if (Member.nested negated set).works c.flags then some c else none
  | .repetition p => scope? c p
  | .group flags p =>
    (scope? { c with flags := c.flags.update flags } p).map fun d => { d with flags := c.flags }
  | .alternation ps | .concatenation ps => scopeAfter? c ps

def scopeAfter? (c : Scope) : List Pattern → Option Scope
  | [] => some c
  | p :: ps => do
    let c ← scope? c p
    scopeAfter? c ps

end

/-- Patterns do not stand deeper in each other. -/
def maxDepth : Nat := 250

def fault? (s : Input) : Option Fault :=
  match ofText? s with
  | none => some .malformed
  | some p =>
    if maxDepth < p.depth then some .malformed
    else
      match scope? {} p with
      | none => some .malformed
      | some c => if c.wordEdge then some .wordEdge else none

theorem deepest_plain (s : Input) : deepest (plain s) = 0 := by
  induction s with
  | nil => rfl
  | cons c s ih => simpa [plain, deepest, depth] using ih

theorem scopeAfter?_plain (s : Input) : scopeAfter? {} (plain s) = some {} := by
  induction s with
  | nil => rfl
  | cons c s ih => simpa [plain, scopeAfter?, scope?, Literal.works] using ih

theorem depth_sequence_plain_le (s : Input) : (sequence (plain s)).depth ≤ 1 := by
  match s with
  | [] | [_] => exact Nat.zero_le 1
  | c :: d :: s =>
    have shallow := deepest_plain (c :: d :: s)
    simp only [plain, List.map_cons] at shallow
    simp [plain, sequence, depth, shallow]

theorem scope?_sequence_plain (s : Input) : scope? {} (sequence (plain s)) = some {} := by
  match s with
  | [] | [_] => rfl
  | c :: d :: s => exact scopeAfter?_plain (c :: d :: s)

/-- A text of letters and digits is a pattern that works. -/
theorem fault?_eq_none {s : Input} (h : ∀ c ∈ s, c.isAlphanum = true) : fault? s = none := by
  have shallow := depth_sequence_plain_le s
  simp only [fault?, ofText?_of_isAlphanum h, scope?_sequence_plain]
  rw [if_neg (by unfold maxDepth; omega)]
  rfl

end SecureHeaders.Log.Pattern
