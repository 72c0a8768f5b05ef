import SecureHeaders.Data
import SecureHeaders.Text.Basic
/-!
Reading JSON. A map keeps the last value of a repeated key and orders its keys by code point.
Integers of 64 bits, signed or not, are kept exactly; every other number, the negative zero
included, becomes a binary64 number: its digits are rounded first, then the product or quotient
with the power of ten.
-/

namespace SecureHeaders.Json

abbrev Input := List Char

/-- Arrays and objects may stand this deep inside each other. -/
def maxDepth : Nat := 127

def isSpace (c : Char) : Bool := c = ' ' || c = '\t' || c = '\n' || c = '\r'

def skipSpace (s : Input) : Input := s.dropWhile isSpace

def dropExactly : List Char → Input → Option Input
  | [], s => some s
  | c :: cs, d :: s => if c = d then dropExactly cs s else none
  | _ :: _, [] => none

def unit? (a b c d : Char) : Option Nat := do
  let a ← Text.hexDigit? a
  let b ← Text.hexDigit? b
  let c ← Text.hexDigit? c
  let d ← Text.hexDigit? d
  some (((a * 16 + b) * 16 + c) * 16 + d)

def isHighSurrogate (unit : Nat) : Bool := 0xD800 ≤ unit && unit < 0xDC00

def isLowSurrogate (unit : Nat) : Bool := 0xDC00 ≤ unit && unit < 0xE000

def surrogatePair (high low : Nat) : Char :=
  Char.ofNat (0x10000 + (high - 0xD800) * 0x400 + (low - 0xDC00))

def simpleEscape? : Char → Option Char
  | '"' => some '"'
  | '\\' => some '\\'
  | '/' => some '/'
  | 'b' => some '\x08'
  | 'f' => some '\x0c'
  | 'n' => some '\n'
  | 'r' => some '\r'
  | 't' => some '\t'
  | _ => none

/-- A text after its opening quote. The characters read so far are kept in reverse; a high
surrogate waits for the low one, which has to follow at once. -/
def textTail (seen : List Char) (high : Option Nat) : Input → Option (String × Input)
  | '\\' :: 'u' :: a :: b :: c :: d :: s => do
    let unit ← unit? a b c d
    match high with
    | some high =>
      if isLowSurrogate unit then textTail (surrogatePair high unit :: seen) none s else none
    | none =>
      if isHighSurrogate unit then textTail seen (some unit) s
      else if isLowSurrogate unit then none
      else textTail (Char.ofNat unit :: seen) none s
  | '\\' :: c :: s =>
    if high.isSome then none
    else
      match simpleEscape? c with
      | some c => textTail (c :: seen) none s
      | none => none
  | c :: s =>
    if high.isSome then none
    else if c = '"' then some (String.ofList seen.reverse, s)
    else if c = '\\' || c.toNat < 0x20 then none
    else textTail (c :: seen) none s
  | [] => none

def textAfterQuote (s : Input) : Option (String × Input) := textTail [] none s

def digitsValue (ds : List Char) : Nat := ds.foldl (fun n c => n * 10 + (c.toNat - 0x30)) 0

def takeDigits (s : Input) : List Char × Input :=
  (s.takeWhile Char.isDigit, s.dropWhile Char.isDigit)

/-- Digits that fit one unsigned word of 64 bits; each digit beyond is dropped. The second part is
the number of dropped digits. -/
def keepWord : List Char → Nat → Nat × Nat
  | [], n => (n, 0)
  | c :: cs, n =>
    let next := n * 10 + (c.toNat - 0x30)
    if next < UInt64.size then keepWord cs next else (n, cs.length + 1)

/-- `digits · 10 ^ exponent`, the digits rounded first. A result beyond the format is refused. -/
def scale (negative : Bool) (digits : Nat) (exponent : Int) : Option Binary64 :=
  let lead := Binary64.ofRatio negative digits 1
  let result :=
    if digits = 0 ∨ exponent = 0 then lead
    else if 400 < exponent then .infinite negative
    else if exponent < -800 then .finite negative 0 Binary64.minExponent
    else stepwise negative lead exponent
  match result with
  | .infinite _ => none
  | x => some x
where
  once (negative : Bool) (x : Binary64) (exponent : Int) : Binary64 :=
    match x, Binary64.ofRatio false (Nat.pow 10 exponent.natAbs) 1 with
    | .finite _ m e, .finite _ m' e' =>
      if 0 ≤ exponent then Binary64.scaleUp m e m' e' negative
      else Binary64.scaleDown m e m' e' negative
    | .finite _ _ _, _ => .infinite negative
    | x, _ => x
  stepwise (negative : Bool) (x : Binary64) (exponent : Int) : Binary64 :=
    if exponent < -616 then
      once negative (once negative (once negative x (-308)) (-308)) (exponent + 616)
    else if exponent < -308 then once negative (once negative x (-308)) (exponent + 308)
    else once negative x exponent

def integer (negative : Bool) (ds : List Char) : Option Data :=
  let n := digitsValue ds
  if negative then
    if 0 < n ∧ n ≤ UInt64.size / 2 then some (.int (-n)) else (floating ds).map Data.float
  else if n < UInt64.size then some (.int n) else (floating ds).map Data.float
where
  floating (ds : List Char) : Option Binary64 :=
    let (digits, dropped) := keepWord ds 0
    scale negative digits dropped

/-- The whole digits of a number: a single zero, or digits that do not start with one. -/
def wholeDigits (s : Input) : Option (List Char × Input) :=
  match takeDigits s with
  | ([], _) => none
  | ('0' :: _ :: _, _) => none
  | (ds, s) => some (ds, s)

def fractionDigits : Input → Option (List Char × Input)
  | '.' :: s =>
    match takeDigits s with
    | ([], _) => none
    | (ds, s) => some (ds, s)
  | s => some ([], s)

def powerOfTen : Input → Option (Option Int × Input)
  | c :: s =>
    if c = 'e' || c = 'E' then
      let (negative, s) := match s with
        | '+' :: s => (false, s)
        | '-' :: s => (true, s)
        | s => (false, s)
      match takeDigits s with
      | ([], _) => none
      | (ds, s) =>
        let n : Int := digitsValue ds
        some (some (if negative then -n else n), s)
    else some (none, c :: s)
  | [] => some (none, [])

def number (s : Input) : Option (Data × Input) := do
  let (negative, s) := match s with
    | '-' :: s => (true, s)
    | s => (false, s)
  let (whole, s) ← wholeDigits s
  let (fraction, s) ← fractionDigits s
  let (power, s) ← powerOfTen s
  if fraction.isEmpty && power.isNone then
    let value ← integer negative whole
    some (value, s)
  else
    let (lead, dropped) := keepWord whole 0
    let (digits, unread) := keepWord fraction lead
    let exponent := (dropped : Int) - (fraction.length - unread : Nat) + power.getD 0
    let x ← scale negative digits exponent
    some (.float x, s)

/-- The items of an array, after its opening bracket and a first look for its end. -/
def items (value : Input → Option (Data × Input)) : Nat → List Data → Input → Option (Data × Input)
  | 0, _, _ => none
  | fuel + 1, seen, s => do
    let (item, s) ← value s
    match skipSpace s with
    | ',' :: s => items value fuel (item :: seen) s
    | ']' :: s => some (.list (item :: seen).reverse, s)
    | _ => none

/-- The entries of an object, after its opening brace and a first look for its end. -/
def entries (value : Input → Option (Data × Input)) :
    Nat → List (String × Data) → Input → Option (Data × Input)
  | 0, _, _ => none
  | fuel + 1, seen, s => do
    let s ← dropExactly ['"'] (skipSpace s)
    let (key, s) ← textAfterQuote s
    let s ← dropExactly [':'] (skipSpace s)
    let (item, s) ← value s
    let seen := Data.insertSorted key item seen
    match skipSpace s with
    | ',' :: s => entries value fuel seen s
    | '}' :: s => some (.map seen, s)
    | _ => none

/-- A value with blanks before it, in which arrays and objects stand at most `depth` deep. -/
def value : Nat → Input → Option (Data × Input)
  | depth, s =>
    match skipSpace s with
    | 'n' :: s => (dropExactly ['u', 'l', 'l'] s).map (.null, ·)
    | 't' :: s => (dropExactly ['r', 'u', 'e'] s).map (.bool true, ·)
    | 'f' :: s => (dropExactly ['a', 'l', 's', 'e'] s).map (.bool false, ·)
    | '"' :: s => (textAfterQuote s).map fun (t, s) => (.text t, s)
    | '[' :: s =>
      match depth with
      | 0 => none
      | depth + 1 =>
        match skipSpace s with
        | ']' :: s => some (.list [], s)
        | s => items (value depth) (s.length + 1) [] s
    | '{' :: s =>
      match depth with
      | 0 => none
      | depth + 1 =>
        match skipSpace s with
        | '}' :: s => some (.map [], s)
        | s => entries (value depth) (s.length + 1) [] s
    | s => number s

def read? (s : String) : Option Data :=
  match value maxDepth s.toList with
  | some (d, rest) => if (skipSpace rest).isEmpty then some d else none
  | none => none

end SecureHeaders.Json
