import SpindleLink.Integrity

/-! What the two frames of the link have in common: sizes, the fixed bytes, the ways in which
received bytes fail to be a frame, and the values that no frame can carry. -/

namespace SpindleLink

/-- Commands go from the host to the inverter, status frames the other way. -/
inductive FrameKind
  | command
  | status
  deriving DecidableEq

namespace FrameKind

def size : FrameKind → Nat
  | command => 9
  | status => 13

def title : FrameKind → String
  | command => "Command"
  | status => "Status"

def word : FrameKind → String
  | command => "command"
  | status => "status"

end FrameKind

/-- Every frame begins with the bytes `00 55`. -/
def lead : UInt8 := 0x00

def mark : UInt8 := 0x55

/-- The last byte of every frame. -/
def terminator : UInt8 := 0xFF

inductive Defect
  | short (kind : FrameKind) (data : Bytes)
  | length (kind : FrameKind) (count : Nat)
  | terminator (found : UInt8)
  | layout (kind : FrameKind) (data : Bytes)
  | integrity (kind : FrameKind) (found expected : Seal)
  | digits (found : Bytes)
  deriving DecidableEq

namespace Defect

/-- Too few bytes tell a cut frame from a wrong one. -/
def isShort : Defect → Bool
  | short _ _ => true
  | _ => false

/-- The bytes at hand when a frame was cut. -/
def received : Defect → Bytes
  | short _ data => data
  | _ => []

def message : Defect → String
  | short kind data =>
    kind.title ++ " frame needs " ++ Numeral.decimal kind.size ++ " bytes, got " ++
      Numeral.decimal data.length
  | length kind count =>
    kind.title ++ " frame must be " ++ Numeral.decimal kind.size ++ " bytes, got " ++
      Numeral.decimal count
  | terminator found =>
    "Status frame terminator is 0x" ++ Hex.capitals found ++ ", expected 0xFF"
  | layout kind data => "Bad " ++ kind.word ++ " frame layout: " ++ Hex.shown data
  | integrity kind found expected =>
    kind.title ++ " frame integrity mismatch: got " ++ Hex.capitals found.xor ++ " " ++
      Hex.capitals found.add ++ ", expected " ++ Hex.capitals expected.xor ++ " " ++
      Hex.capitals expected.add
  | digits found =>
    "Status frame digits out of range: " ++
      Numeral.bracketed (found.map fun d => (d.toNat : Int))

end Defect

inductive Rejection
  | byteRange
  | frequency (n : Int)
  | control (n : Int)
  | digitCount (n : Nat)
  | digits (ds : List Int)
  | indicators (n : Int)
  deriving DecidableEq

def Rejection.message : Rejection → String
  | byteRange => "bytes must be in range(0, 256)"
  | frequency n => "Frequency payload must be 0-65535, got " ++ Numeral.decimal n
  | control n => "Control byte must be 0-255, got " ++ Numeral.decimal n
  | digitCount n => "Status frame needs 5 digits, got " ++ Numeral.decimal n
  | digits ds => "Display digits must be 0-9, got " ++ Numeral.bracketed ds
  | indicators n => "Indicator byte must be 0-255, got " ++ Numeral.decimal n

def byte? (n : Int) : Except Rejection UInt8 :=
  if 0 ≤ n ∧ n < 256 then .ok (UInt8.ofNat n.toNat) else .error .byteRange

end SpindleLink
