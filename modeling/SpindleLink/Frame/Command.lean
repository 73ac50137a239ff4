import SpindleLink.Frame.Basic

/-! Command frames: `00 55`, the frequency in hundredths of a hertz (two bytes, high first), the
control byte, `01`, the integrity pair of those four bytes, `FF`. -/

namespace SpindleLink

/-- The content of a command frame. The fields are unbounded integers, so a value need not have
a written form. -/
structure Command where
  frequency : Int
  control : Int
  xorByte : Int
  addByte : Int
  deriving DecidableEq

namespace Command

/-- The fixed byte behind the control byte. -/
def tail : UInt8 := 0x01

def high (f : Command) : Int := f.frequency / 256 % 256

def low (f : Command) : Int := f.frequency % 256

def covered (f : Command) : Except Rejection Bytes := do
  let control ← byte? f.control
  pure [UInt8.ofNat f.high.toNat, UInt8.ofNat f.low.toNat, control, tail]

def toBytes (f : Command) : Except Rejection Bytes := do
  let covered ← f.covered
  let x ← byte? f.xorByte
  let a ← byte? f.addByte
  pure ([lead, mark] ++ covered ++ [x, a, terminator])

/-- Reads nine bytes; a wrong length is found first, then a wrong fixed byte, then a wrong
integrity pair. -/
def ofBytes (data : Bytes) : Except Defect Command :=
  match data with
  | [s, m, d₁, d₂, c, t, x, a, e] =>
    let expected := Seal.of [d₁, d₂, c, t]
    if s ≠ lead ∨ m ≠ mark ∨ t ≠ tail ∨ e ≠ terminator then .error (.layout .command data)
    else if (⟨x, a⟩ : Seal) ≠ expected then .error (.integrity .command ⟨x, a⟩ expected)
    else .ok
      { frequency := d₁.toNat * 256 + d₂.toNat
        control := c.toNat
        xorByte := x.toNat
        addByte := a.toNat }
  | _ =>
    if data.length < FrameKind.command.size then .error (.short .command data)
    else .error (.length .command data.length)

def encode (frequency control : Int) : Except Rejection Command :=
  if ¬(0 ≤ frequency ∧ frequency ≤ 0xFFFF) then .error (.frequency frequency)
  else if ¬(0 ≤ control ∧ control ≤ 0xFF) then .error (.control control)
  else
    let pair := Seal.of
      [UInt8.ofNat (frequency / 256).toNat, UInt8.ofNat (frequency % 256).toNat,
        UInt8.ofNat control.toNat, tail]
    .ok
      { frequency := frequency
        control := control
        xorByte := pair.xor.toNat
        addByte := pair.add.toNat }

/-- The content of a frame beside the bytes it was written as. -/
def describe (f : Command) (data : Bytes) : String :=
  "CommandFrame(frequency=" ++ Numeral.decimal f.frequency ++ ", control=0x" ++
    Numeral.hexFilled 2 f.control ++ ", bytes=" ++ Hex.shown data ++ ")"

end Command
end SpindleLink
