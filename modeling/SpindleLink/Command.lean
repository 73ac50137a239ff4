import SpindleLink.Fault

/-! The commands that the panel keys make: run, stop, and a new speed. -/

namespace SpindleLink
namespace Command

/-- Any frequency beside any control byte. -/
def frame (frequency control : Int) : Except Fault Command :=
  (Command.encode frequency control).mapError Fault.rejected

def start (rotation : Rotation) : Except Fault Command := frame 0 (startKeys true rotation)

def stop : Except Fault Command := frame 0 stopBit

/-- The speed is judged before the control byte. -/
def speed (rpm control : Int) : Except Fault Command := do
  let frequency ← (frequencyOf rpm).mapError Fault.speed
  frame frequency control

end Command
end SpindleLink
