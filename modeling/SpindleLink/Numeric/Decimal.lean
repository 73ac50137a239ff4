import SpindleLink.Numeric.Binary64

/-! Decimal numerals: their grammars, and the double nearest to the number they write. -/

namespace SpindleLink

/-- The number `± mantissa * 10 ^ exponent`. -/
structure Decimal where
  negative : Bool
  mantissa : Nat
  exponent : Int

namespace Decimal

/-- The nearest double, infinite beyond the range. Numbers far outside the range are told by the
length of their mantissa alone. -/
def toFloat (d : Decimal) : Float :=
  let size : Int := (Nat.toDigits 10 d.mantissa).length + d.exponent
  if d.mantissa = 0 ∨ size < -400 then Binary64.ofParts d.negative 0
  else if 400 < size then Binary64.infinity d.negative
  else
    let n : Int := d.mantissa * Nat.pow 10 d.exponent.toNat
    match Binary64.quotient? (if d.negative then -n else n) (Nat.pow 10 (-d.exponent).toNat) with
    | some x => x
    | none => Binary64.infinity d.negative

def ofDigits (cs : List Char) : Nat := cs.foldl (fun n c => n * 10 + (c.toNat - 48)) 0

/-- An optional sign, and what follows it. -/
def sign : List Char → Bool × List Char
  | '-' :: rest => (true, rest)
  | '+' :: rest => (false, rest)
  | rest => (false, rest)

/-- Digits up to the end, at least one. -/
def natural? (cs : List Char) : Option Nat :=
  if cs.isEmpty ∨ !cs.all Char.isDigit then none else some (ofDigits cs)

/-- Digits up to the end, of which only a lone one may begin with zero. -/
def plainNatural? (cs : List Char) : Option Nat :=
  if 1 < cs.length ∧ cs.head? = some '0' then none else natural? cs

/-- An optional minus, then digits up to the end, without leading zeros. -/
def integer? : List Char → Option Int
  | '-' :: rest => (plainNatural? rest).map fun n => -(n : Int)
  | cs => (plainNatural? cs).map fun n => (n : Int)

/-- The exponent part: nothing, or a mark, an optional sign and digits up to the end. -/
def exponentPart? : List Char → Option Int
  | [] => some 0
  | c :: rest =>
    if c = 'e' ∨ c = 'E' then
      let (negative, rest) := sign rest
      (natural? rest).map fun n => if negative then -(n : Int) else n
    else none

/-- Digits with an optional point among or around them, then an optional exponent. -/
def unsigned? (negative : Bool) (cs : List Char) : Option Decimal :=
  let whole := cs.takeWhile Char.isDigit
  let rest := cs.dropWhile Char.isDigit
  let (fraction, rest) := match rest with
    | '.' :: rest' => (rest'.takeWhile Char.isDigit, rest'.dropWhile Char.isDigit)
    | _ => ([], rest)
  if whole.isEmpty ∧ fraction.isEmpty then none
  else (exponentPart? rest).map fun e =>
    { negative := negative
      mantissa := ofDigits (whole ++ fraction)
      exponent := e - fraction.length }

/-- A real number without separators, or one of the words for infinity and for no number in any
case. -/
def real? (cs : List Char) : Option Float :=
  let (negative, rest) := sign cs
  let word := String.ofList (rest.map Char.toLower)
  if word = "inf" ∨ word = "infinity" then some (Binary64.infinity negative)
  else if word = "nan" then some Binary64.nan
  else (unsigned? negative rest).map toFloat

def hasDoubled : List Char → Bool
  | '_' :: '_' :: _ => true
  | _ :: rest => hasDoubled rest
  | [] => false

/-- Takes the underscores out: single ones, none of them at an end. -/
def withoutSeparators? (cs : List Char) : Option (List Char) :=
  if cs.head? = some '_' ∨ cs.getLast? = some '_' ∨ hasDoubled cs = true then none
  else some (cs.filter fun c => c ≠ '_')

/-- Passes over zeros and underscores behind a zero. What is left begins with a digit or a minus;
before a point, and at the end, the last character passed is kept. -/
def pastZeros? (last : Char) : List Char → Option (List Char)
  | [] => some [last]
  | c :: rest =>
    if c = '0' ∨ c = '_' then pastZeros? c rest
    else if c.isDigit ∨ c = '-' then some (c :: rest)
    else if c = '.' then some (last :: c :: rest)
    else none

/-- Drops leading zeros from a text that begins with a digit. -/
def dropZeros? : List Char → Option (List Char)
  | '0' :: rest => pastZeros? '0' rest
  | c :: rest => if c.isDigit then some (c :: rest) else none
  | [] => none

/-- Drops a point with only zeros behind it, at least one. -/
def dropFraction (cs : List Char) : List Char :=
  match cs.dropWhile fun c => c ≠ '.' with
  | _ :: z :: zs => if (z :: zs).all fun c => c = '0' then cs.takeWhile fun c => c ≠ '.' else cs
  | _ => cs

/-- A written integer stripped to what counts: no plus, no zeros that lead it, no empty fraction,
no separators. Zeros behind a minus that is not the first sign stay. -/
def stripped? (cs : List Char) : Option (List Char) := do
  let (negative, rest) := sign cs
  let digits := dropFraction (← dropZeros? rest)
  withoutSeparators? (if negative then '-' :: digits else digits)

end Decimal
end SpindleLink
