/-!
Socket addresses: an IPv4 or IPv6 address with a port, and for IPv6 a numbered scope; and the text
that they are printed as. There the first of the longest runs of two or more zero groups is left out
between two colons; an IPv4 address mapped into IPv6 is shown as such. A scope is shown unless it is
zero.
-/

namespace SecureHeaders.Net

structure Ipv4 where
  a : UInt8
  b : UInt8
  c : UInt8
  d : UInt8
deriving DecidableEq

/-- Eight groups of sixteen bits. -/
structure Ipv6 where
  groups : List UInt16
  size : groups.length = 8
deriving DecidableEq

inductive SocketAddress where
  | v4 (ip : Ipv4) (port : UInt16)
  | v6 (ip : Ipv6) (scope : UInt32) (port : UInt16)
deriving DecidableEq

namespace Ipv4

/-- The two groups of an IPv6 address that an IPv4 address fills. -/
def groups (ip : Ipv4) : List UInt16 :=
  [UInt16.ofNat (ip.a.toNat * 256 + ip.b.toNat), UInt16.ofNat (ip.c.toNat * 256 + ip.d.toNat)]

def ofGroups (high low : UInt16) : Ipv4 :=
  ⟨UInt8.ofNat (high.toNat / 256), UInt8.ofNat (high.toNat % 256),
   UInt8.ofNat (low.toNat / 256), UInt8.ofNat (low.toNat % 256)⟩

def isUnspecified (ip : Ipv4) : Bool := ip == ⟨0, 0, 0, 0⟩

end Ipv4

namespace Ipv6

/-- The IPv4 address that is mapped into an IPv6 address. -/
def mapped? (ip : Ipv6) : Option Ipv4 :=
  match ip.groups with
  | [0, 0, 0, 0, 0, 0xFFFF, high, low] => some (Ipv4.ofGroups high low)
  | _ => none

def isUnspecified (ip : Ipv6) : Bool := ip.groups.all fun g => g == 0

def lead (ip : Ipv6) : Nat := (ip.groups.head?.getD 0).toNat

def isMulticast (ip : Ipv6) : Bool := 0xFF00 ≤ ip.lead

def isLinkLocal (ip : Ipv6) : Bool := 0xFE80 ≤ ip.lead && ip.lead < 0xFEC0

end Ipv6

namespace SocketAddress

def port : SocketAddress → UInt16
  | v4 _ port => port
  | v6 _ _ port => port

/-- The IPv4 address, also if it is mapped into IPv6. -/
def ipv4? : SocketAddress → Option Ipv4
  | v4 ip _ => some ip
  | v6 ip _ _ => ip.mapped?

/-- The IPv6 address for all of a machine also takes what comes over IPv4. -/
def takesAll : SocketAddress → Bool
  | v4 _ _ => false
  | v6 ip _ _ => ip.isUnspecified

/-- Whether two listeners would get in each other's way. Port zero stands for any free port. -/
def overlaps (a b : SocketAddress) : Bool :=
  a.port != 0 && a.port == b.port
    && (a.takesAll || b.takesAll || a == b
      || match a.ipv4?, b.ipv4? with
        | some x, some y => x == y || x.isUnspecified || y.isUnspecified
        | _, _ => false)

end SocketAddress

def decimal (n : Nat) : List Char := Nat.toDigits 10 n

def hexadecimal (n : Nat) : List Char := Nat.toDigits 16 n

def Ipv4.print (ip : Ipv4) : List Char :=
  decimal ip.a.toNat ++ '.' :: decimal ip.b.toNat ++ '.' :: decimal ip.c.toNat
    ++ '.' :: decimal ip.d.toNat

/-- Groups with colons between them. -/
def printGroups : List UInt16 → List Char
  | [] => []
  | [g] => hexadecimal g.toNat
  | g :: rest => hexadecimal g.toNat ++ ':' :: printGroups rest

def leadingZeros (groups : List UInt16) : Nat := (groups.takeWhile fun g => g == 0).length

/-- Start and length of the first of the longest runs of zeros. -/
def longestZeroRun (groups : List UInt16) : Nat × Nat :=
  (List.range groups.length).foldl
    (fun best i =>
      let n := leadingZeros (groups.drop i)
      if best.2 < n then (i, n) else best)
    (0, 0)

def Ipv6.print (ip : Ipv6) : List Char :=
  match ip.mapped? with
  | some ip => [':', ':', 'f', 'f', 'f', 'f', ':'] ++ ip.print
  | none =>
    let (start, size) := longestZeroRun ip.groups
    if 1 < size then
      printGroups (ip.groups.take start) ++ ':' :: ':'
        :: printGroups (ip.groups.drop (start + size))
    else printGroups ip.groups

def SocketAddress.print : SocketAddress → String
  | .v4 ip port => String.ofList (ip.print ++ ':' :: decimal port.toNat)
  | .v6 ip scope port =>
    let zone := if scope = 0 then [] else '%' :: decimal scope.toNat
    String.ofList ('[' :: ip.print ++ zone ++ ']' :: ':' :: decimal port.toNat)

end SecureHeaders.Net
