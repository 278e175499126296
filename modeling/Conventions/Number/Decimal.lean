import Conventions.Number.Binary64

/-!
# Decimal text of floating-point numbers

The plain text of a number has the fewest decimal digits that read back as the same number, and of
those the digits nearest to it. It is positional when the decimal point falls at most sixteen places
to the right and at most three zeros to the left of the first digit, and has an exponent of at least
two digits otherwise. The one-place text rounds the exact value, a half to the even neighbour.
-/

namespace Conventions.Binary64

/-- Significant digits and the place of the point: `0.digits * 10 ^ point`. -/
structure Decimal where
  digits : List Char
  point : Int
deriving DecidableEq, Repr

/-- The number of zeros between the point and the first digit of a ratio below one. -/
def leadingZeros : Nat → Nat → Nat → Nat
  | 0, _, _ => 0
  | fuel + 1, num, den => if num * 10 < den then leadingZeros fuel (num * 10) den + 1 else 0

/-- The place of the point of a positive ratio: it is below `10 ^ point` and not below a tenth of it. -/
def decimalPoint (num den : Nat) : Int :=
  if den ≤ num then (Nat.toDigits 10 (num / den)).length
  else -(leadingZeros 400 num den : Int)

/-- The ends of the interval of ratios that round to a number, over the denominator `4 * den`. -/
def roundingInterval (mantissa : Nat) (exponent : Int) : Nat × Nat × Nat :=
  let (num, den) := ratio 1 exponent
  let lower :=
    if mantissa = Nat.pow 2 52 ∧ minExponent < exponent then 4 * mantissa - 1 else 4 * mantissa - 2
  (lower * num, (4 * mantissa + 2) * num, 4 * den)

/-- The grid of decimals with `n` digits at a point, as a unit numerator and denominator. -/
def gridUnit (point : Int) (n : Nat) : Nat × Nat :=
  let e := point - n
  if 0 ≤ e then (Nat.pow 10 e.toNat, 1) else (1, Nat.pow 10 (-e).toNat)

/-- The neighbour of the value on a grid that lies in the rounding interval, the nearer of two. -/
def nearestOnGrid (mantissa : Nat) (exponent : Int) (unit : Nat × Nat) : Option Nat :=
  let (num, den) := ratio mantissa exponent
  let (lo, hi, scale) := roundingInterval mantissa exponent
  let even := mantissa % 2 = 0
  let inside := fun (k : Nat) =>
    let x := k * unit.1 * scale
    let l := lo * unit.2
    let h := hi * unit.2
    decide (if even then l ≤ x ∧ x ≤ h else l < x ∧ x < h)
  let below := num * unit.2 / (den * unit.1)
  let nearest := roundDiv (num * unit.2) (den * unit.1)
  let other := if nearest = below then below + 1 else below
  if inside nearest then some nearest else if inside other then some other else none

/-- The first grid, from `n` digits on, with a hit. -/
def shortestFrom (mantissa : Nat) (exponent point : Int) (n : Nat) : Nat → Nat × Nat
  | 0 => (n, 0)
  | fuel + 1 =>
    match nearestOnGrid mantissa exponent (gridUnit point n) with
    | some k => (n, k)
    | none => shortestFrom mantissa exponent point (n + 1) fuel

/-- The shortest decimal of a positive finite number. -/
def shortest (mantissa : Nat) (exponent : Int) : Decimal :=
  let (num, den) := ratio mantissa exponent
  let point := decimalPoint num den
  let (n, k) := shortestFrom mantissa exponent point 1 17
  let digits := Nat.toDigits 10 k
  ⟨digits, point + ((digits.length : Int) - n)⟩

/-- Digits without the zeros at their end, but at least one digit. -/
def trimZeros (digits : List Char) : List Char :=
  match (digits.reverse.dropWhile (· = '0')).reverse with
  | [] => ['0']
  | ds => ds

/-- An exponent with its sign and at least two digits. -/
def exponentText (e : Int) : List Char :=
  let ds := Nat.toDigits 10 e.natAbs
  'e' :: (if e < 0 then '-' else '+') :: (if ds.length < 2 then '0' :: ds else ds)

/-- A decimal in positional notation or with an exponent. -/
def Decimal.text (d : Decimal) : List Char :=
  let ds := trimZeros d.digits
  if d.point ≤ -4 ∨ 16 < d.point then
    let tail := match ds with
      | [] => []
      | [c] => [c]
      | c :: cs => c :: '.' :: cs
    tail ++ exponentText (d.point - 1)
  else if d.point ≤ 0 then '0' :: '.' :: (List.replicate (-d.point).toNat '0' ++ ds)
  else
    let n := d.point.toNat
    if ds.length ≤ n then ds ++ List.replicate (n - ds.length) '0' ++ ['.', '0']
    else ds.take n ++ '.' :: ds.drop n

/-- The sign in front of a number. -/
def signText (negative : Bool) : List Char := if negative then ['-'] else []

/-- The plain text of a number. -/
def text : Binary64 → String
  | .finite s m e =>
    let body := if m = 0 then ['0', '.', '0'] else (shortest m e).text
    String.ofList (signText s ++ body)
  | .infinite s => String.ofList (signText s) ++ "inf"
  | .nan => "nan"

/-- The text of a number with one decimal place. -/
def onePlaceText : Binary64 → String
  | .finite s m e =>
    let (num, den) := ratio m e
    let tenths := roundDiv (num * 10) den
    String.ofList (signText s) ++ toString (tenths / 10) ++ "." ++ toString (tenths % 10)
  | .infinite s => String.ofList (signText s) ++ "inf"
  | .nan => "nan"

end Conventions.Binary64
