/-! Doubles and exact numbers: the double nearest to a quotient of integers, and the exact value
that a double stands for. -/

namespace SpindleLink

/-- The nearest whole number to `a / b`; a half goes to the even neighbour. -/
def roundDiv (a b : Nat) : Nat :=
  if 2 * (a % b) < b ∨ (2 * (a % b) = b ∧ a / b % 2 = 0) then a / b else a / b + 1

namespace Binary64

/-- What a double stands for: `mantissa * 2 ^ exponent` with a sign, or no number. -/
inductive Value
  | finite (negative : Bool) (mantissa : Nat) (exponent : Int)
  | infinite (negative : Bool)
  | nan
  deriving DecidableEq

def value (x : Float) : Value :=
  let bits := x.toBits.toNat
  let negative := decide (Nat.pow 2 63 ≤ bits)
  let field : Nat := bits / Nat.pow 2 52 % Nat.pow 2 11
  let fraction : Nat := bits % Nat.pow 2 52
  if field = Nat.pow 2 11 - 1 then if fraction = 0 then .infinite negative else .nan
  else if field = 0 then .finite negative fraction (-1074)
  else .finite negative (Nat.pow 2 52 + fraction) ((field : Int) - 1075)

/-- The exponent `k` with `2 ^ k ≤ a / b < 2 ^ (k + 1)`, for positive `a` and `b`. -/
def binade (a b : Nat) : Int :=
  let k : Int := a.log2 - b.log2
  if a * Nat.pow 2 (-k).toNat < b * Nat.pow 2 k.toNat then k - 1 else k

/-- The bits of the double nearest to `a / b` (ties to even) as a number, for positive `a` and
`b`; at and beyond `2 ^ 63 - 2 ^ 52` the quotient is out of range. -/
def quotientBits (a b : Nat) : Nat :=
  let e := max (binade a b - 52) (-1074)
  (e + 1074).toNat * Nat.pow 2 52 + roundDiv (a * Nat.pow 2 (-e).toNat) (b * Nat.pow 2 e.toNat)

def ofParts (negative : Bool) (bits : Nat) : Float :=
  Float.ofBits (UInt64.ofNat (bits + if negative then Nat.pow 2 63 else 0))

def infinity (negative : Bool) : Float := ofParts negative (Nat.pow 2 63 - Nat.pow 2 52)

def nan : Float := ofParts false (Nat.pow 2 63 - Nat.pow 2 51)

/-- The double nearest to `n / d` for `d ≠ 0`, unless it is out of range. -/
def quotient? (n d : Int) : Option Float :=
  let negative := decide (n < 0) != decide (d < 0)
  let bits := if n = 0 then 0 else quotientBits n.natAbs d.natAbs
  if bits < Nat.pow 2 63 - Nat.pow 2 52 then some (ofParts negative bits) else none

/-- The double nearest to an integer, unless it is out of range. -/
def ofInt? (n : Int) : Option Float := quotient? n 1

/-- The least integer that is not below `± mantissa * 2 ^ exponent`. -/
def ceiling (negative : Bool) (mantissa : Nat) (exponent : Int) : Int :=
  let m : Int := if negative then -mantissa else mantissa
  if 0 ≤ exponent then m * Nat.pow 2 exponent.toNat else -((-m) / Nat.pow 2 (-exponent).toNat)

/-- The integer that a finite double equals, if there is one. -/
def whole? (x : Float) : Option Int :=
  match value x with
  | .finite negative mantissa exponent =>
    let up := ceiling negative mantissa exponent
    if up = -ceiling (!negative) mantissa exponent then some up else none
  | _ => none

end Binary64
end SpindleLink
