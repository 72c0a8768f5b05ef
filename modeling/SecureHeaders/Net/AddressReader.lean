import SecureHeaders.Net.Address
/-!
Reading a socket address. Each reader takes a text apart from its start and leaves the rest; an
address is read only if nothing is left.
-/

namespace SecureHeaders.Net

abbrev Input := List Char

def digit? (radix : Nat) (c : Char) : Option Nat :=
  let n :=
    if '0' ≤ c && c ≤ '9' then c.toNat - 0x30
    else if 'a' ≤ c && c ≤ 'z' then c.toNat - 0x61 + 10
    else if 'A' ≤ c && c ≤ 'Z' then c.toNat - 0x41 + 10
    else radix
  if n < radix then some n else none

/-- The digits at the start of a text, and the rest. -/
def digits (radix : Nat) : Input → List Nat × Input
  | [] => ([], [])
  | c :: s =>
    match digit? radix c with
    | none => ([], c :: s)
    | some d => let (ds, rest) := digits radix s; (d :: ds, rest)

/-- How a number may be written: at most how many digits, zeros in front of others or not, and the
bound that it stays below. -/
structure NumberForm where
  radix : Nat
  maxDigits : Option Nat
  leadingZero : Bool
  bound : Nat

namespace NumberForm

def octet : NumberForm := ⟨10, some 3, false, UInt8.size⟩
def group : NumberForm := ⟨16, some 4, true, UInt16.size⟩
def port : NumberForm := ⟨10, none, true, UInt16.size⟩
def scope : NumberForm := ⟨10, none, true, UInt32.size⟩

end NumberForm

/-- A number of a given form: all digits at the start of the text. -/
def number (form : NumberForm) (s : Input) : Option (Nat × Input) :=
  let (ds, rest) := digits form.radix s
  let value := ds.foldl (fun n d => n * form.radix + d) 0
  let tooLong := match form.maxDigits with
    | some most => most < ds.length
    | none => false
  if ds.isEmpty || tooLong || (!form.leadingZero && ds.head? == some 0 && 1 < ds.length) then none
  else if value < form.bound then some (value, rest)
  else none

def char (c : Char) : Input → Option Input
  | d :: s => if d = c then some s else none
  | [] => none

def ipv4 (s : Input) : Option (Ipv4 × Input) := do
  let (a, s) ← number .octet s
  let s ← char '.' s
  let (b, s) ← number .octet s
  let s ← char '.' s
  let (c, s) ← number .octet s
  let s ← char '.' s
  let (d, s) ← number .octet s
  some (⟨UInt8.ofNat a, UInt8.ofNat b, UInt8.ofNat c, UInt8.ofNat d⟩, s)

/-- The colon in front of every group but the first. -/
def separator (first : Bool) (s : Input) : Option Input := if first then some s else char ':' s

/-- At most `room` groups with colons between them, with an IPv4 address in place of the last two
if there is room. Tells also whether it ends in an IPv4 address. -/
def groups (first : Bool) : Nat → Input → List UInt16 × Bool × Input
  | 0, s => ([], false, s)
  | room + 1, s =>
    match (if room = 0 then none else separator first s >>= ipv4) with
    | some (ip, s) => (ip.groups, true, s)
    | none =>
      match separator first s >>= number .group with
      | none => ([], false, s)
      | some (g, s) =>
        let (gs, dotted, s) := groups false room s
        (UInt16.ofNat g :: gs, dotted, s)

/-- Eight groups, or groups around two colons that stand for one or more zero groups. -/
def ipv6Groups (s : Input) : Option (List UInt16 × Input) :=
  let (head, dotted, s) := groups true 8 s
  if head.length = 8 then some (head, s)
  else if dotted then none
  else do
    let s ← char ':' s
    let s ← char ':' s
    let (tail, _, s) := groups true (7 - head.length) s
    some (head ++ List.replicate (8 - head.length - tail.length) 0 ++ tail, s)

def ipv6 (s : Input) : Option (Ipv6 × Input) := do
  let (gs, s) ← ipv6Groups s
  if h : gs.length = 8 then some (⟨gs, h⟩, s) else none

/-- A scope after a percent sign; without one the scope is zero. -/
def scope (s : Input) : Nat × Input :=
  ((char '%' s >>= number .scope).getD (0, s))

def portAfterColon (s : Input) : Option (UInt16 × Input) := do
  let s ← char ':' s
  let (port, s) ← number .port s
  some (UInt16.ofNat port, s)

def socketV4 (s : Input) : Option (SocketAddress × Input) := do
  let (ip, s) ← ipv4 s
  let (port, s) ← portAfterColon s
  some (.v4 ip port, s)

def socketV6 (s : Input) : Option (SocketAddress × Input) := do
  let s ← char '[' s
  let (ip, s) ← ipv6 s
  let (zone, s) := scope s
  let s ← char ']' s
  let (port, s) ← portAfterColon s
  some (.v6 ip (UInt32.ofNat zone) port, s)

/-- The socket address that a text spells, if it spells one and nothing else. -/
def SocketAddress.parse? (s : String) : Option SocketAddress :=
  match socketV4 s.toList <|> socketV6 s.toList with
  | some (address, []) => some address
  | _ => none

end SecureHeaders.Net
