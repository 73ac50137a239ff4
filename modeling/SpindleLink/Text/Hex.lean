import SpindleLink.Text.Numeral

/-! Byte strings and their base-sixteen forms: packed, spaced, and read back. -/

namespace SpindleLink

abbrev Bytes := List UInt8

namespace Hex

def digit (n : UInt8) : Char := Nat.digitChar n.toNat

/-- The two lower-case digits of a byte. -/
def pair (b : UInt8) : List Char := [digit (b / 16), digit (b % 16)]

/-- Two digits a byte with nothing between them. -/
def packed (data : Bytes) : String := String.ofList (data.flatMap pair)

/-- Two digits a byte, the bytes parted by single spaces. -/
def spaced (data : Bytes) : String :=
  String.intercalate " " (data.map fun b => String.ofList (pair b))

/-- The spaced form, with a word of its own for no bytes at all. -/
def shown (data : Bytes) : String := if data.isEmpty then "(empty)" else spaced data

/-- One byte as two capital digits. -/
def capitals (b : UInt8) : String := Numeral.hexFilled 2 b.toNat

def value? (c : Char) : Option UInt8 :=
  if '0' ≤ c ∧ c ≤ '9' then some (UInt8.ofNat (c.toNat - 48))
  else if 'a' ≤ c ∧ c ≤ 'f' then some (UInt8.ofNat (c.toNat - 87))
  else none

def read? : List Char → Option Bytes
  | [] => some []
  | [_] => none
  | high :: low :: rest => do
    let h ← value? high
    let l ← value? low
    let bytes ← read? rest
    pure ((h * 16 + l) :: bytes)

end Hex
end SpindleLink
