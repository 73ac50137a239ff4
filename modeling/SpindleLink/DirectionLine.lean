import SpindleLink.Channel

/-! The signal that switches the transceiver: high to transmit, low to receive. It comes from a
script, from the modem line of a serial channel, or from an output pin. -/

namespace SpindleLink

inductive DirectionLine
  | scripted (id : Nat)
  | rts (id : Nat) (channel : SerialChannel) (activeHigh : Bool)
  | gpio (id : Nat) (pin : Int)
  deriving DecidableEq

namespace DirectionLine

variable {T : Type} [TimeScale T]

def resource : DirectionLine → Resource
  | scripted id => .direction id
  | rts id _ _ => .direction id
  | gpio id _ => .direction id

def title : DirectionLine → String
  | scripted _ => "FakeDirection"
  | rts _ _ _ => "RtsDirectionLine"
  | gpio _ _ => "GpioDirectionLine"

def pin? : DirectionLine → Option Int
  | gpio _ pin => some pin
  | _ => none

def drivePin (id : Nat) (pin : Int) (high : Bool) : Act (Bench T) Unit := do
  if ← Act.observe fun b => b.pins.get id then Bench.touch (.pinOutput pin high)
  else .raise (.pinNotOpen pin)

/-- Lets the transceiver transmit. -/
def engage : DirectionLine → Act (Bench T) Unit
  | scripted id => Bench.touch (.engage id)
  | rts _ channel activeHigh => channel.driveRts activeHigh
  | gpio id pin => drivePin id pin true

/-- Lets the transceiver receive. -/
def disengage : DirectionLine → Act (Bench T) Unit
  | scripted id => Bench.touch (.disengage id)
  | rts _ channel activeHigh => channel.driveRts !activeHigh
  | gpio id pin => drivePin id pin false

/-- Makes a pin an output, low at first; the other kinds need no opening. -/
def «open» : DirectionLine → Act (Bench T) Unit
  | gpio id pin => do
    Act.require ((← Act.observe Bench.hasPinLibrary) = true) .pinLibraryMissing
    Bench.touch .pinMode
    Bench.signal (.pinSetup pin) fun b => { b with pins := b.pins.set id true }
    Bench.note (.pinOpened pin)
  | _ => pure ()

/-- Puts an opened pin low and gives it back. -/
def close : DirectionLine → Act (Bench T) Unit
  | gpio id pin => do
    if ← Act.observe fun b => b.pins.get id then
      Bench.touch (.pinOutput pin false)
      Bench.signal (.pinCleanup pin) fun b => { b with pins := b.pins.set id false }
  | _ => pure ()

end DirectionLine
end SpindleLink
