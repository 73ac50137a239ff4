import SpindleLink.Numeric.Binary64
import SpindleLink.Text.Numeral

/-! The shortest decimal text that reads back as a given double. -/

namespace SpindleLink
namespace Shortest

open Binary64

/-- The reals that round to one double, over a common denominator. -/
structure Basin where
  value : Nat
  low : Nat
  high : Nat
  scale : Nat
  closed : Bool

/-- The reals nearer to `mantissa * 2 ^ exponent` than to its neighbours, with the ends exactly
for an even mantissa. -/
def Basin.of (mantissa : Nat) (exponent : Int) : Basin :=
  let unit := Nat.pow 2 (exponent - 2).toNat
  let below := if mantissa = Nat.pow 2 52 ∧ -1074 < exponent then 1 else 2
  { value := 4 * mantissa * unit
    low := (4 * mantissa - below) * unit
    high := (4 * mantissa + 2) * unit
    scale := Nat.pow 2 (2 - exponent).toNat
    closed := mantissa % 2 = 0 }

def Basin.holds (b : Basin) (n : Nat) (place : Int) : Bool :=
  let x := n * Nat.pow 10 place.toNat * b.scale
  let t := Nat.pow 10 (-place).toNat
  if b.closed then b.low * t ≤ x && x ≤ b.high * t else b.low * t < x && x < b.high * t

/-- The least `k` in a bounded search with `value / scale < 10 ^ k`. -/
def Basin.pointFrom (b : Basin) : Nat → Int → Int
  | 0, k => k
  | fuel + 1, k =>
    if b.value * Nat.pow 10 (-k).toNat < b.scale * Nat.pow 10 k.toNat then k
    else b.pointFrom fuel (k + 1)

def Basin.point (b : Basin) : Int := b.pointFrom 640 (-330)

/-- The neighbour of the value on the grid of `10 ^ place` that lies in the basin and is nearer;
an exact tie goes to the even one. -/
def Basin.pick (b : Basin) (place : Int) : Option Nat :=
  let num := b.value * Nat.pow 10 (-place).toNat
  let den := b.scale * Nat.pow 10 place.toNat
  let down := num / den
  match b.holds down place, b.holds (down + 1) place with
  | true, true => some (roundDiv num den)
  | true, false => some down
  | false, true => some (down + 1)
  | false, false => none

/-- The first grid with a hit, from coarse to fine. -/
def Basin.search (b : Basin) (point : Int) : Nat → Nat → Nat × Int
  | 0, count => (b.value * Nat.pow 10 (count - point).toNat / b.scale, point - count)
  | fuel + 1, count =>
    match b.pick (point - count) with
    | some n => (n, point - count)
    | none => b.search point fuel (count + 1)

/-- The digits of a positive double and the place of the decimal point after the first of them. -/
def digits (mantissa : Nat) (exponent : Int) : List Char × Int :=
  let b := Basin.of mantissa exponent
  let (n, place) := b.search b.point 17 1
  let cs := Nat.toDigits 10 n
  let kept := (cs.reverse.dropWhile (· = '0')).reverse
  (kept, place + cs.length - 1)

/-- Positional from `10 ^ -4` up to below `10 ^ 16`, with at least one place; otherwise one digit,
the rest after the point, and a signed exponent of at least two digits. -/
def layout (cs : List Char) (e : Int) : List Char :=
  if 0 ≤ e ∧ e < 16 then
    let n := e.toNat + 1
    let fraction := cs.drop n
    cs.take n ++ List.replicate (n - cs.length) '0' ++ ['.'] ++
      (if fraction.isEmpty then ['0'] else fraction)
  else if -4 ≤ e ∧ e < 0 then
    ['0', '.'] ++ List.replicate ((-e).toNat - 1) '0' ++ cs
  else
    let rest := cs.drop 1
    cs.take 1 ++ (if rest.isEmpty then [] else '.' :: rest) ++ ['e'] ++
      [if e < 0 then '-' else '+'] ++ Numeral.filled 10 2 e.natAbs

def text (x : Float) : String :=
  match value x with
  | .nan => "nan"
  | .infinite negative => if negative then "-inf" else "inf"
  | .finite negative mantissa exponent =>
    let body := if mantissa = 0 then ['0', '.', '0'] else
      let (cs, e) := digits mantissa exponent
      layout cs e
    String.ofList (if negative then '-' :: body else body)

end Shortest
end SpindleLink
