/-!
Patterns for the values of fields, in the syntax of regular expressions, as trees. No value is ever
matched against one here, so a tree keeps what decides whether a pattern works and nothing else.
-/

namespace SecureHeaders.Log

namespace Pattern

structure Literal where
  char : Char
  /-- It is written by two hexadecimal digits, and may stand for a single byte. -/
  byByte : Bool := false
deriving DecidableEq

mutual

inductive Member where
  | literal (l : Literal)
  | range (low high : Literal)
  | named (negated : Bool)
  /-- An escape for the digits, the blanks or the characters of words. -/
  | shorthand (negated : Bool)
  | nested (negated : Bool) (set : CharSet)

inductive CharSet where
  | union (members : List Member)
  /-- An intersection or a difference. -/
  | combine (left right : CharSet)

end

end Pattern

/-- A pattern, or a part of one. Flags are kept as they are written. -/
inductive Pattern where
  | empty
  | setFlags (flags : List Char)
  | literal (l : Pattern.Literal)
  | dot
  /-- The start or the end of a line or of the text. -/
  | textEdge
  | wordEdge
  | shorthand (negated : Bool)
  | charClass (negated : Bool) (set : Pattern.CharSet)
  | repetition (p : Pattern)
  | group (flags : List Char) (p : Pattern)
  | alternation (ps : List Pattern)
  | concatenation (ps : List Pattern)

namespace Pattern

def sequence : List Pattern → Pattern
  | [] => empty
  | [p] => p
  | ps => concatenation ps

def choice : List Pattern → Pattern
  | [p] => p
  | ps => alternation ps

mutual

def Member.depth : Member → Nat
  | .nested _ set => set.depth + 1
  | _ => 0

/-- How deep classes stand in a set. A single member counts as the set itself. -/
def CharSet.depth : CharSet → Nat
  | .union members => deepestMember members + (if members.length ≤ 1 then 0 else 1)
  | .combine left right => max left.depth right.depth + 1

def deepestMember : List Member → Nat
  | [] => 0
  | m :: ms => max m.depth (deepestMember ms)

end

mutual

def depth : Pattern → Nat
  | .charClass _ set => set.depth + 1
  | .repetition p | .group _ p => p.depth + 1
  | .alternation ps | .concatenation ps => deepest ps + 1
  | _ => 0

def deepest : List Pattern → Nat
  | [] => 0
  | p :: ps => max p.depth (deepest ps)

end

end Pattern
end SecureHeaders.Log
