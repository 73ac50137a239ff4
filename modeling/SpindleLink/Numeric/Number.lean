import SpindleLink.Numeric.Shortest

/-! Numbers as they are given, integers of any size or doubles, and what can go wrong when they
are computed with. -/

namespace SpindleLink

inductive ArithmeticFault
  | divisionByZero
  | quotientTooLarge
  | integerTooLarge
  | ceilingOfInfinity
  | ceilingOfNan
  deriving DecidableEq

def ArithmeticFault.message : ArithmeticFault → String
  | divisionByZero => "division by zero"
  | quotientTooLarge => "integer division result too large for a float"
  | integerTooLarge => "int too large to convert to float"
  | ceilingOfInfinity => "cannot convert float infinity to integer"
  | ceilingOfNan => "cannot convert float NaN to integer"

/-- The double nearest to a quotient of integers. -/
def quotient (n d : Int) : Except ArithmeticFault Float :=
  if d = 0 then .error .divisionByZero
  else match Binary64.quotient? n d with
    | some x => .ok x
    | none => .error .quotientTooLarge

/-- An integer of any size, or a double. -/
inductive Number
  | whole (n : Int)
  | real (x : Float)
  deriving DecidableEq

namespace Number

def text : Number → String
  | whole n => Numeral.decimal n
  | real x => Shortest.text x

/-- Holds of no double without value. -/
def atMostZero : Number → Bool
  | whole n => n ≤ 0
  | real x => x ≤ 0

def toFloat : Number → Except ArithmeticFault Float
  | whole n =>
    match Binary64.ofInt? n with
    | some x => .ok x
    | none => .error .integerTooLarge
  | real x => .ok x

/-- The least integer not below `count` times the number; the product of doubles is rounded. -/
def timesCeiling (count : Int) : Number → Except ArithmeticFault Int
  | whole n => .ok (count * n)
  | real x => do
    let factor ← toFloat (.whole count)
    match Binary64.value (factor * x) with
    | .finite negative mantissa exponent => .ok (Binary64.ceiling negative mantissa exponent)
    | .infinite _ => .error .ceilingOfInfinity
    | .nan => .error .ceilingOfNan

end Number
end SpindleLink
