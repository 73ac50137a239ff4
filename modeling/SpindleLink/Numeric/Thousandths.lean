import SpindleLink.Numeric.Binary64
import SpindleLink.Text.Numeral

/-! Numbers shown with three decimal places. -/

namespace SpindleLink

/-- A number rounded to whole thousandths, with the sign it had before the rounding. -/
inductive Thousandths
  | finite (negative : Bool) (count : Nat)
  | infinite (negative : Bool)
  | nan
  deriving DecidableEq

namespace Thousandths

/-- Rounds the exact value of a double; a half goes to the even thousandth. -/
def ofFloat (x : Float) : Thousandths :=
  match Binary64.value x with
  | .nan => .nan
  | .infinite negative => .infinite negative
  | .finite negative mantissa exponent =>
    .finite negative
      (roundDiv (mantissa * 1000 * Nat.pow 2 exponent.toNat) (Nat.pow 2 (-exponent).toNat))

def text : Thousandths → String
  | .nan => "nan"
  | .infinite negative => if negative then "-inf" else "inf"
  | .finite negative count =>
    (if negative then "-" else "") ++ Numeral.decimal (count / 1000) ++ "." ++
      Numeral.decimalFilled 3 (count % 1000)

end Thousandths
end SpindleLink
