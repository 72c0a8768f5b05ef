import SecureHeaders.Number.Binary64
/-!
The shortest decimal text of a binary64 number: of the decimals that read back as the number,
those with the fewest digits, and of them the nearest. `Layout` says which of two equally near
decimals is taken and how the digits are set out.
-/

namespace SecureHeaders.Binary64

structure Decimal where
  digits : Nat
  exponent : Int
deriving DecidableEq

/-- The decimal exponent `k` with `10 ^ (k - 1) ≤ num / den < 10 ^ k`, for a positive ratio. Below
one it is searched downward from `0`, in at most `fuel` steps. -/
def decimalSize (num den : Nat) : Int :=
  if den ≤ num then digitCount (num / den) else below 400 num 0
where
  below : Nat → Nat → Int → Int
    | 0, _, k => k
    | fuel + 1, n, k => if den ≤ n * 10 then k else below fuel (n * 10) (k - 1)

inductive Tie where
  | up
  | even

def Tie.goesUp (tie : Tie) (digits : Nat) : Prop :=
  match tie with
  | .up => True
  | .even => digits % 2 = 1

instance (tie : Tie) (digits : Nat) : Decidable (tie.goesUp digits) :=
  match tie with
  | .up => isTrue trivial
  | .even => inferInstanceAs (Decidable (_ = _))

/-- The decimal with `count` digits that reads back as `m · 2 ^ e`, if there is one: the nearer of
the two neighbours of the number on the grid of such decimals. The numbers that read back lie
between the midpoints to the neighbours in the format, both included when `m` is even. -/
def withDigits? (tie : Tie) (m : Nat) (e : Int) (size : Int) (count : Nat) : Option Decimal :=
  let k := size - count
  let up := Nat.pow 2 e.toNat * Nat.pow 10 (-k).toNat
  let step := 4 * Nat.pow 2 (-e).toNat * Nat.pow 10 k.toNat
  let value := 4 * m * up
  let gap := if m = mantissaBound / 2 ∧ minExponent < e then 1 else 2
  let low := (4 * m - gap) * up
  let high := (4 * m + 2) * up
  let even := m % 2 = 0
  let floor := value / step
  let lowFits := low < floor * step ∨ (even ∧ low = floor * step)
  let ceiling := if floor * step = value then floor else floor + 1
  let highFits := ceiling * step < high ∨ (even ∧ ceiling * step = high)
  let below := value - floor * step
  let above := ceiling * step - value
  if lowFits ∧ (¬ highFits ∨ below < above ∨ (below = above ∧ ¬ tie.goesUp floor)) then
    some ⟨floor, k⟩
  else if highFits then some ⟨ceiling, k⟩
  else none

def Decimal.trim (d : Decimal) : Decimal := go 400 d
where
  go : Nat → Decimal → Decimal
    | 0, d => d
    | fuel + 1, d =>
      if d.digits ≠ 0 ∧ d.digits % 10 = 0 then go fuel ⟨d.digits / 10, d.exponent + 1⟩ else d

/-- The shortest decimal of a positive number: seventeen digits always suffice. -/
def shortest (tie : Tie) (m : Nat) (e : Int) : Decimal :=
  let (num, den) := toRatio m e
  let size := decimalSize num den
  (((List.range 17).firstM fun i => withDigits? tie m e size (i + 1)).getD ⟨m, 0⟩).trim

/-- How a number is written. `positional` says, by the size of the number, where the digits stand
around a decimal point; elsewhere a power of ten is written after them. -/
structure Layout where
  tie : Tie
  positional : Int → Bool

namespace Layout

/-- Every number around its decimal point, a tie upward. -/
def plain : Layout := ⟨.up, fun _ => true⟩

/-- Powers of ten below `10 ^ -5` and from `10 ^ 16`, a tie to the even digit. -/
def scientific : Layout := ⟨.even, fun size => -5 < size && size ≤ 16⟩

end Layout

def positionalText (d : Decimal) : String :=
  let ds := Nat.toDigits 10 d.digits
  let size := d.exponent + ds.length
  if 0 ≤ d.exponent then
    String.ofList (ds ++ List.replicate d.exponent.toNat '0') ++ ".0"
  else if 0 < size then
    String.ofList (ds.take size.toNat) ++ "." ++ String.ofList (ds.drop size.toNat)
  else "0." ++ String.ofList (List.replicate (-size).toNat '0' ++ ds)

def scientificText (d : Decimal) : String :=
  match Nat.toDigits 10 d.digits with
  | [] => ""
  | c :: rest =>
    let n := d.exponent + rest.length
    let power := (if 0 ≤ n then "+" else "") ++ toString n
    if rest.isEmpty then String.singleton c ++ "e" ++ power
    else String.singleton c ++ "." ++ String.ofList rest ++ "e" ++ power

def toText (layout : Layout) : Binary64 → String
  | .nan => "NaN"
  | .infinite negative => if negative then "-inf" else "inf"
  | .finite negative m e =>
    let sign := if negative then "-" else ""
    if m = 0 then sign ++ "0.0"
    else
      let d := shortest layout.tie m e
      let size := d.exponent + digitCount d.digits
      sign ++ if layout.positional size then positionalText d else scientificText d

end SecureHeaders.Binary64
