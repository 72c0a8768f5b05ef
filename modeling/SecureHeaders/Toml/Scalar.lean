import SecureHeaders.Toml.Text
import SecureHeaders.Data
/-!
Numbers, booleans and moments. Integers have 64 bits with a sign; floats are rounded to binary64,
and one above its range is refused.
-/

namespace SecureHeaders.Toml

/-- Further digits, each with at most one underscore in front, after those read so far, which are
kept in reverse. -/
def digitsAfter (isDigit : Char → Bool) (seen : List Char) : Input → List Char × Input
  | '_' :: c :: s =>
    if isDigit c then digitsAfter isDigit (c :: seen) s else (seen.reverse, '_' :: c :: s)
  | c :: s => if isDigit c then digitsAfter isDigit (c :: seen) s else (seen.reverse, c :: s)
  | [] => (seen.reverse, [])

/-- At least one digit, with single underscores between digits. -/
def digits (isDigit : Char → Bool) : Input → Option (List Char × Input)
  | c :: s => if isDigit c then some (digitsAfter isDigit [c] s) else none
  | [] => none

def valueOf (radix : Nat) (cs : List Char) : Nat :=
  cs.foldl (fun n c => n * radix + (Text.hexDigit? c).getD 0) 0

/-- Integers have this many values on either side of zero. -/
def integerBound : Nat := UInt64.size / 2

def integerOf (negative : Bool) (n : Nat) : Option Data :=
  if negative then if n ≤ integerBound then some (.int (-n)) else none
  else if n < integerBound then some (.int n) else none

/-- The digits of an integer or of the whole part of a float: one zero, or no zero in front. -/
def wholeDigits : Input → Option (List Char × Input)
  | '0' :: s => some (['0'], s)
  | s => digits Char.isDigit s

def fraction? : Input → Option (Option (List Char) × Input)
  | '.' :: s => (digits Char.isDigit s).map fun (cs, s) => (some cs, s)
  | s => some (none, s)

def power? : Input → Option (Option Int × Input)
  | c :: s =>
    if c = 'e' || c = 'E' then
      let (negative, s) := match s with
        | '+' :: s => (false, s)
        | '-' :: s => (true, s)
        | s => (false, s)
      (digits Char.isDigit s).map fun (cs, s) =>
        let n : Int := valueOf 10 cs
        (some (if negative then -n else n), s)
    else some (none, c :: s)
  | [] => some (none, [])

def floatOf (negative : Bool) (whole fraction : List Char) (power : Int) : Option Data :=
  match Binary64.ofDecimal negative (valueOf 10 (whole ++ fraction)) (power - fraction.length) with
  | .infinite false => none
  | x => some (.float x)

def decimalNumber (negative : Bool) (s : Input) : Option (Data × Input) := do
  let (whole, s) ← wholeDigits s
  let (fraction, s) ← fraction? s
  let (power, s) ← power? s
  let value ←
    if fraction.isNone && power.isNone then integerOf negative (valueOf 10 whole)
    else floatOf negative whole (fraction.getD []) (power.getD 0)
  some (value, s)

def isHex (c : Char) : Bool := (Text.hexDigit? c).isSome
def isOctal (c : Char) : Bool := '0' ≤ c && c ≤ '7'
def isBinary (c : Char) : Bool := c = '0' || c = '1'

/-- An integer of another radix, after the letter that names it. -/
def radixInteger (radix : Nat) (isDigit : Char → Bool) (s : Input) : Option (Data × Input) := do
  let (cs, s) ← digits isDigit s
  let value ← integerOf false (valueOf radix cs)
  some (value, s)

/-- A number after its sign: infinite, not a number, or decimal. -/
def signed (negative : Bool) : Input → Option (Data × Input)
  | 'i' :: 'n' :: 'f' :: s => some (.float (.infinite negative), s)
  | 'n' :: 'a' :: 'n' :: s => some (.float .nan, s)
  | s => decimalNumber negative s

def number : Input → Option (Data × Input)
  | '0' :: 'x' :: s => radixInteger 16 isHex s
  | '0' :: 'o' :: s => radixInteger 8 isOctal s
  | '0' :: 'b' :: s => radixInteger 2 isBinary s
  | '+' :: s => signed false s
  | '-' :: s => signed true s
  | s => signed false s

def fixedDigits : Nat → Nat → Input → Option (Nat × Input)
  | 0, n, s => some (n, s)
  | _ + 1, _, [] => none
  | count + 1, n, c :: s =>
    if c.isDigit then fixedDigits count (n * 10 + (c.toNat - 0x30)) s else none

def isLeapYear (year : Nat) : Bool := year % 4 = 0 && (year % 100 ≠ 0 || year % 400 = 0)

def daysIn (year month : Nat) : Nat :=
  if month = 2 then if isLeapYear year then 29 else 28
  else if month = 4 || month = 6 || month = 9 || month = 11 then 30
  else 31

def date (s : Input) : Option Input := do
  let (year, s) ← fixedDigits 4 0 s
  let s ← char '-' s
  let (month, s) ← fixedDigits 2 0 s
  let s ← char '-' s
  let (day, s) ← fixedDigits 2 0 s
  if 1 ≤ month && month ≤ 12 && 1 ≤ day && day ≤ daysIn year month then some s else none

def hourAndMinute (s : Input) : Option Input := do
  let (hour, s) ← fixedDigits 2 0 s
  let s ← char ':' s
  let (minute, s) ← fixedDigits 2 0 s
  if hour ≤ 23 && minute ≤ 59 then some s else none

def secondFraction : Input → Input
  | '.' :: c :: s => if c.isDigit then s.dropWhile Char.isDigit else '.' :: c :: s
  | s => s

/-- A time of day; a leap second is allowed. -/
def time (s : Input) : Option Input := do
  let s ← hourAndMinute s
  let s ← char ':' s
  let (second, s) ← fixedDigits 2 0 s
  if second ≤ 60 then some (secondFraction s) else none

/-- The distance from universal time, if one is written. -/
def zone : Input → Input
  | 'Z' :: s | 'z' :: s => s
  | '+' :: s => (hourAndMinute s).getD ('+' :: s)
  | '-' :: s => (hourAndMinute s).getD ('-' :: s)
  | s => s

/-- A time of day after a date, if one is written. -/
def timeAfterDate : Input → Input
  | c :: s =>
    if c = 'T' || c = 't' || c = ' ' then
      match time s with
      | some s => zone s
      | none => c :: s
    else c :: s
  | [] => []

/-- What is left after a date with or without a time, or a time. -/
def moment? (s : Input) : Option Input :=
  match date s with
  | some s => some (timeAfterDate s)
  | none => time s

def boolean : Input → Option (Data × Input)
  | 't' :: 'r' :: 'u' :: 'e' :: s => some (.bool true, s)
  | 'f' :: 'a' :: 'l' :: 's' :: 'e' :: s => some (.bool false, s)
  | _ => none

/-- A value without values inside it, told by its first character. -/
def scalar (s : Input) : Option (Data × Input) :=
  match s with
  | [] => none
  | c :: _ =>
    if c = '"' || c = apostrophe then (string s).map fun (t, s) => (.text t, s)
    else if c = 't' || c = 'f' then boolean s
    else
      match moment? s with
      | some s => some (.moment, s)
      | none => number s

end SecureHeaders.Toml
