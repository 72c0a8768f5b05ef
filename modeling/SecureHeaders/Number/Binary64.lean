/-!
Numbers of the binary64 format, as exact values: a finite one is `mantissa · 2 ^ exponent` with a
sign. Ratios are rounded to the nearest number of the format, a tie to the even mantissa.
-/

namespace SecureHeaders

inductive Binary64 where
  | finite (negative : Bool) (mantissa : Nat) (exponent : Int)
  | infinite (negative : Bool)
  | nan
deriving DecidableEq, Inhabited

namespace Binary64

/-- The exponent of the finest grid of the format. -/
def minExponent : Int := -1074

def maxExponent : Int := 971

def mantissaBound : Nat := Nat.pow 2 53

/-- `num / den` over the grid `2 ^ e`, as a numerator and a denominator. -/
def onGrid (num den : Nat) (e : Int) : Nat × Nat :=
  (num * Nat.pow 2 (-e).toNat, den * Nat.pow 2 e.toNat)

def roundHalfEven (num den : Nat) : Nat :=
  let m := num / den
  let r := num % den
  if den < 2 * r ∨ (2 * r = den ∧ m % 2 = 1) then m + 1 else m

/-- The exponent of the grid on which a ratio is rounded: the finest one of the format on which
its whole part is below `mantissaBound`. -/
def gridOf (num den : Nat) : Int :=
  let e := max minExponent ((num.log2 : Int) - den.log2 - 53)
  let (n, d) := onGrid num den e
  if n / d < mantissaBound then e else e + 1

def ofRatio (negative : Bool) (num den : Nat) : Binary64 :=
  if num = 0 then .finite negative 0 minExponent
  else
    let e := gridOf num den
    let (n, d) := onGrid num den e
    let m := roundHalfEven n d
    let (m, e) := if m = mantissaBound then (m / 2, e + 1) else (m, e)
    if maxExponent < e then .infinite negative else .finite negative m e

def digitCount (n : Nat) : Nat := (Nat.toDigits 10 n).length

/-- The number of the format nearest to `digits · 10 ^ exponent`. Far outside the range of the
format the power of ten is not computed. -/
def ofDecimal (negative : Bool) (digits : Nat) (exponent : Int) : Binary64 :=
  if digits = 0 then .finite negative 0 minExponent
  else
    let size := exponent + digitCount digits
    if 310 < size then .infinite negative
    else if size < -330 then .finite negative 0 minExponent
    else ofRatio negative (digits * Nat.pow 10 exponent.toNat)
      (Nat.pow 10 (-exponent).toNat)

def toRatio (m : Nat) (e : Int) : Nat × Nat := (m * Nat.pow 2 e.toNat, Nat.pow 2 (-e).toNat)

def scaleUp (m : Nat) (e : Int) (m' : Nat) (e' : Int) (negative : Bool) : Binary64 :=
  let (n, d) := toRatio m e
  let (n', d') := toRatio m' e'
  ofRatio negative (n * n') (d * d')

def scaleDown (m : Nat) (e : Int) (m' : Nat) (e' : Int) (negative : Bool) : Binary64 :=
  let (n, d) := toRatio m e
  let (n', d') := toRatio m' e'
  ofRatio negative (n * d') (d * n')

end Binary64
end SecureHeaders
