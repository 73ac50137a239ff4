import SpindleLink.Frame.Basic

/-! Status frames: `00 55`, the five digits of the display, the indicator byte, `01 00`, the
integrity pair of the nine bytes from `55` on, `FF`. -/

namespace SpindleLink

/-- The content of a status frame and the bytes it came from. -/
structure Status where
  digits : List Int
  indicators : Int
  raw : Bytes
  deriving DecidableEq

namespace Status

def fixed : Bytes := [0x01, 0x00]

def digitCount : Nat := 5

/-- The covered bytes of a status frame with the rest around them. -/
def sealed (digits : Bytes) (indicators : UInt8) : Bytes :=
  let covered := [mark] ++ digits ++ [indicators] ++ fixed
  [lead] ++ covered ++ [(Seal.of covered).xor, (Seal.of covered).add, terminator]

/-- The bytes that an inverter sends for a display and an indicator byte. -/
def encode (digits : List Int) (indicators : Int) : Except Rejection Bytes :=
  if digits.length ≠ digitCount then .error (.digitCount digits.length)
  else if digits.any (fun d => decide ¬(0 ≤ d ∧ d ≤ 9)) then .error (.digits digits)
  else if ¬(0 ≤ indicators ∧ indicators ≤ 0xFF) then .error (.indicators indicators)
  else .ok (sealed (digits.map fun d => UInt8.ofNat d.toNat) (UInt8.ofNat indicators.toNat))

/-- Reads thirteen bytes; a wrong length is found first, then a wrong last byte, another wrong
fixed byte, a wrong integrity pair, and a digit above nine. -/
def decode (data : Bytes) : Except Defect Status :=
  match data with
  | [s, m, d₁, d₂, d₃, d₄, d₅, i, f, z, x, a, e] =>
    let expected := Seal.of [m, d₁, d₂, d₃, d₄, d₅, i, f, z]
    let digits := [d₁, d₂, d₃, d₄, d₅]
    if e ≠ terminator then .error (.terminator e)
    else if s ≠ lead ∨ m ≠ mark ∨ [f, z] ≠ fixed then .error (.layout .status data)
    else if (⟨x, a⟩ : Seal) ≠ expected then .error (.integrity .status ⟨x, a⟩ expected)
    else if digits.any (fun d => decide (9 < d)) then .error (.digits digits)
    else .ok
      { digits := digits.map fun d => (d.toNat : Int)
        indicators := i.toNat
        raw := data }
  | _ =>
    if data.length < FrameKind.status.size then .error (.short .status data)
    else .error (.length .status data.length)

/-- The digits in a row with a point behind the third character. -/
def display (f : Status) : List Char :=
  let shown := f.digits.flatMap fun d => Numeral.filled 10 0 d
  shown.take 3 ++ ['.'] ++ shown.drop 3

def describe (f : Status) : String :=
  "StatusFrame(display=" ++ String.ofList f.display ++ ", indicators=0b" ++
    Numeral.binaryFilled 8 f.indicators ++ ")"

end Status
end SpindleLink
