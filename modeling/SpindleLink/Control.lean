import SpindleLink.Frame.Command
import SpindleLink.Text.Quoted

/-! The control byte, the directions of rotation, and the frequency that a speed is commanded
by. -/

namespace SpindleLink

structure NamedBit where
  name : String
  place : Nat

namespace NamedBit

def weight (b : NamedBit) : Int := Nat.pow 2 b.place

def isSet (b : NamedBit) (n : Int) : Bool := n / Nat.pow 2 b.place % 2 = 1

/-- The number that stands for a set of bits. A negative one down to -256 counts from 256; one
below that counts from the least power of two above its magnitude. -/
def normalised (n : Int) : Int :=
  if 0 ≤ n then n
  else if -256 ≤ n then n + 256
  else n + Nat.pow 2 (Nat.log2 n.natAbs + 1)

end NamedBit

def controlKeys : List NamedBit :=
  [⟨"RUN", 0⟩, ⟨"STOP", 1⟩, ⟨"UP", 2⟩, ⟨"LEFT", 3⟩, ⟨"RIGHT", 4⟩, ⟨"DOWN", 5⟩, ⟨"SET", 6⟩,
    ⟨"DIRECTION", 7⟩]

def runBit : Int := 1

def stopBit : Int := 2

def directionBit : Int := 128

inductive Rotation
  | forward
  | reverse
  deriving DecidableEq

namespace Rotation

def word : Rotation → String
  | forward => "forward"
  | reverse => "reverse"

/-- The key to press with the run key. -/
def bits : Rotation → Int
  | forward => 0
  | reverse => directionBit

def ofWord? (s : String) : Option Rotation :=
  if s = "forward" then some forward else if s = "reverse" then some reverse else none

def refusal (s : String) : String := Quoted.text s ++ " is not a valid Direction"

end Rotation

/-- The control byte that starts the spindle, or none. -/
def startKeys (running : Bool) (rotation : Rotation) : Int :=
  if running then runBit + rotation.bits else 0

/-- The control byte beside a new speed. The direction bit is a key press and would turn the
rotation round, so it is left out. -/
def speedKeys (running : Bool) : Int := if running then runBit else 0

inductive SpeedLimit
  | negative (rpm : Int)
  | belowOneHertz (rpm : Int)
  | beyondPayload (rpm : Int)
  deriving DecidableEq

def SpeedLimit.message : SpeedLimit → String
  | negative rpm => "Target RPM must be non-negative, got " ++ Numeral.decimal rpm
  | belowOneHertz rpm =>
    "Target RPM " ++ Numeral.decimal rpm ++
      " is below 60 RPM and would truncate to 0 Hz; use 0 to command zero speed"
  | beyondPayload rpm =>
    "Target RPM " ++ Numeral.decimal rpm ++
      " exceeds the maximum frequency payload (655.35 Hz)"

/-- The frequency of a speed in hundredths of a hertz, cut to whole hertz. -/
def frequencyOf (rpm : Int) : Except SpeedLimit Int :=
  if rpm < 0 then .error (.negative rpm)
  else if 0 < rpm ∧ rpm < 60 then .error (.belowOneHertz rpm)
  else if 0xFFFF < rpm / 60 * 100 then .error (.beyondPayload rpm)
  else .ok (rpm / 60 * 100)

/-- The speed that a frequency in hundredths of a hertz stands for, cut to whole hertz. -/
def rpmOf (hundredths : Int) : Int := hundredths / 100 * 60

end SpindleLink
