/-!
# Binary floating-point numbers

Numbers with 53 binary digits and exponents down to -1074. A finite number is a sign, a mantissa and
an exponent, in the one form in which the mantissa is below `2 ^ 53` and is at least `2 ^ 52` unless
the exponent is the least one; so two finite numbers are equal exactly when their fields are, apart
from the sign of zero. Every operation computes the exact ratio and rounds it once, to the nearest
number, and in the middle of two to the one with the even mantissa.
-/

namespace Conventions

/-- A floating-point number. -/
inductive Binary64 where
  | finite (negative : Bool) (mantissa : Nat) (exponent : Int)
  | infinite (negative : Bool)
  | nan
deriving DecidableEq, Repr, Inhabited

namespace Binary64

/-- The least exponent. -/
def minExponent : Int := -1074

/-- The greatest exponent of a finite number. -/
def maxExponent : Int := 971

/-- Zero with a sign. -/
def zero (negative : Bool) : Binary64 := .finite negative 0 minExponent

/-- The quotient of two numbers to the nearest integer, a half to the even neighbour. -/
def roundDiv (num den : Nat) : Nat :=
  let q := num / den
  let r := num % den
  if 2 * r > den ∨ (2 * r = den ∧ q % 2 = 1) then q + 1 else q

/-- The ratio `num / (den * 2 ^ e)` as a numerator and a denominator. -/
def scaleDown (num den : Nat) (e : Int) : Nat × Nat :=
  if 0 ≤ e then (num, den * Nat.pow 2 e.toNat) else (num * Nat.pow 2 (-e).toNat, den)

/-- The number nearest to a ratio. -/
def ofRatio (negative : Bool) (num den : Nat) : Binary64 :=
  if num = 0 then zero negative
  else
    let guess : Int := (Nat.log2 num : Int) - (Nat.log2 den : Int) - 52
    let below := fun e => let s := scaleDown num den e; s.1 / s.2 < Nat.pow 2 52
    let e := max minExponent (if below guess then guess - 1 else guess)
    let s := scaleDown num den e
    let m := roundDiv s.1 s.2
    let (m, e) := if m = Nat.pow 2 53 then (Nat.pow 2 52, e + 1) else (m, e)
    if maxExponent < e then .infinite negative else .finite negative m e

/-- The number nearest to an integer. -/
def ofInt (n : Int) : Binary64 := ofRatio (n < 0) n.natAbs 1

/-- The number nearest to `digits * 10 ^ exponent`. -/
def ofDecimal (negative : Bool) (digits : Nat) (exponent : Int) : Binary64 :=
  let magnitude := ((Nat.toDigits 10 digits).length : Int) + exponent
  if digits = 0 ∨ magnitude < -330 then zero negative
  else if 310 < magnitude then .infinite negative
  else if 0 ≤ exponent then ofRatio negative (digits * Nat.pow 10 exponent.toNat) 1
  else ofRatio negative digits (Nat.pow 10 (-exponent).toNat)

/-- The size of a finite number as a numerator and a denominator. -/
def ratio (mantissa : Nat) (exponent : Int) : Nat × Nat := scaleDown mantissa 1 (-exponent)

/-- The value of a finite number as a signed numerator over a denominator. -/
def signedRatio (negative : Bool) (mantissa : Nat) (exponent : Int) : Int × Nat :=
  let r := ratio mantissa exponent
  (if negative then -r.1 else r.1, r.2)

/-- Whether a number is zero. -/
def isZero : Binary64 → Bool
  | .finite _ m _ => m = 0
  | _ => false

/-- The number with the other sign. -/
def neg : Binary64 → Binary64
  | .finite s m e => .finite (!s) m e
  | .infinite s => .infinite (!s)
  | .nan => .nan

/-- A number divided by a positive integer. -/
def divNat (x : Binary64) (d : Nat) : Binary64 :=
  match x with
  | .finite s m e => let r := ratio m e; ofRatio s r.1 (r.2 * d)
  | x => x

/-- A number times a natural number. -/
def mulNat (x : Binary64) (n : Nat) : Binary64 :=
  match x with
  | .finite s m e => let r := ratio m e; ofRatio s (r.1 * n) r.2
  | x => x

/-- The sum of two numbers. -/
def add : Binary64 → Binary64 → Binary64
  | .finite s m e, .finite s' m' e' =>
    let a := signedRatio s m e
    let b := signedRatio s' m' e'
    let n := a.1 * b.2 + b.1 * a.2
    if n = 0 then zero (s && s') else ofRatio (n < 0) n.natAbs (a.2 * b.2)
  | .infinite s, .infinite s' => if s = s' then .infinite s else .nan
  | .infinite s, .finite .. => .infinite s
  | .finite .., .infinite s => .infinite s
  | _, _ => .nan

/-- How a number compares with an integer, if it does. -/
def compareInt (x : Binary64) (n : Int) : Option Ordering :=
  match x with
  | .finite s m e => let r := signedRatio s m e; some (compare r.1 (n * r.2))
  | .infinite s => some (if s then .lt else .gt)
  | .nan => none

/-- How two numbers compare, if they do. -/
def compare? : Binary64 → Binary64 → Option Ordering
  | .finite s m e, .finite s' m' e' =>
    let a := signedRatio s m e
    let b := signedRatio s' m' e'
    some (compare (a.1 * b.2) (b.1 * a.2))
  | .nan, _ => none
  | _, .nan => none
  | .infinite s, .infinite s' => some (if s = s' then .eq else if s then .lt else .gt)
  | .infinite s, _ => some (if s then .lt else .gt)
  | _, .infinite s => some (if s then .gt else .lt)

end Binary64

end Conventions
