/-! Whole numbers written in a base up to sixteen, filled with zeros to a least width. -/

namespace SpindleLink
namespace Numeral

def capital (c : Char) : Char := if 'a' ≤ c ∧ c ≤ 'f' then Char.ofNat (c.toNat - 32) else c

/-- At least `width` characters: zeros fill the gap between the sign and the digits. -/
def filled (base width : Nat) (n : Int) : List Char :=
  let sign := if n < 0 then ['-'] else []
  let digits := Nat.toDigits base n.natAbs
  sign ++ List.replicate (width - (sign.length + digits.length)) '0' ++ digits

def decimal (n : Int) : String := String.ofList (filled 10 0 n)

def decimalFilled (width : Nat) (n : Int) : String := String.ofList (filled 10 width n)

def binaryFilled (width : Nat) (n : Int) : String := String.ofList (filled 2 width n)

/-- Base sixteen with capital letters. -/
def hexFilled (width : Nat) (n : Int) : String := String.ofList ((filled 16 width n).map capital)

/-- Numbers in brackets, parted by a comma and a space. -/
def bracketed (ns : List Int) : String :=
  "[" ++ String.intercalate ", " (ns.map decimal) ++ "]"

end Numeral
end SpindleLink
