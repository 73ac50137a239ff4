import SpindleLink.Bench.Basic

/-! Byte channels to the transceiver: scripted ones, and serial ports with the fixed framing of
the link. -/

namespace SpindleLink

/-- The milliseconds on the wire of one character: a start bit, eight data bits and a stop bit. -/
def characterTime (baud : Int) : Except ArithmeticFault Float := quotient 10000 baud

/-- A serial channel by name and speed. Which port it has open, if any, the bench knows. -/
structure SerialChannel where
  id : Nat
  name : String
  baud : Int
  deriving DecidableEq

namespace SerialChannel

variable {T : Type} [TimeScale T]

def defaultName : String := "/dev/ttyUSB0"

def defaultBaud : Int := 9600

def port? (c : SerialChannel) (b : Bench T) : Option (Port T) :=
  (b.ports.get c.id).filter Port.isOpen

def connected (c : SerialChannel) (b : Bench T) : Bool := (c.port? b).isSome

def setPort (c : SerialChannel) (p : Option (Port T)) (b : Bench T) : Bench T :=
  { b with ports := b.ports.set c.id p }

def usePort (c : SerialChannel) : Act (Bench T) (Port T) := do
  match ← Act.observe c.port? with
  | some p => pure p
  | none => .raise (.portNotOpen c.name)

/-- A fault of the serial device becomes a fault of the link; any other passes. -/
def ofDevice (wrap : Fault → Fault) (f : Fault) : Fault := if f.isA .serial then wrap f else f

/-- Opens the port unless it is open. -/
def «open» (c : SerialChannel) : Act (Bench T) Unit := do
  if ← Act.observe c.connected then pure ()
  else
    Act.relabel (Bench.signal (.portOpen c.name c.baud) (c.setPort (some ⟨true, none⟩)))
      (ofDevice (.portRefused c.name c.baud))
    Bench.note (.portOpened c.name c.baud)

/-- Closes the port if there is one. In any case the channel is without a port afterwards. -/
def close (c : SerialChannel) : Act (Bench T) Unit := do
  if (← Act.observe fun b => b.ports.get c.id).isNone then pure ()
  else
    let closing : Act (Bench T) Unit := (Bench.touch .portClose).orElse fun f =>
      if f.isA .serial then Bench.note (.portCloseFailed c.name f) else .raise f
    closing.ensuring do
      Act.change (c.setPort none)
      Bench.note (.portClosed c.name)

/-- Writes and waits until all is sent; the number of bytes that the port says it took. -/
def write (c : SerialChannel) (data : Bytes) : Act (Bench T) Int := do
  let _ ← c.usePort
  let accepted ← Act.relabel (do
      let accepted ← Bench.perform (.portWrite data) Reply.accepted fun b =>
        (b.device.acceptance.answer data.length, b)
      Bench.touch .portFlush
      pure accepted)
    (ofDevice (.portWrite c.name))
  pure (accepted.getD data.length)

def hasWaiting (c : SerialChannel) : Act (Bench T) Bool := do
  let _ ← c.usePort
  let waiting ← Act.relabel
    (Bench.perform .portWaiting Reply.waiting fun b => (b.device.stale.length, b))
    (ofDevice (.portPoll c.name))
  pure (0 < waiting)

/-- Reads one byte within a wait, which the port is told only when it is another than before. -/
def next (c : SerialChannel) (wait : Option (Wait T)) : Act (Bench T) (Option UInt8) := do
  let port ← c.usePort
  let limit ← wait.elim (pure none) fun w => some <$> w.resolve
  Act.relabel (do
      Act.onlyIf (Wait.sameLimit port.timeout wait = false)
        (Bench.signal (.portTimeout limit) (c.setPort (some { port with timeout := wait })))
      Bench.perform .portRead Reply.byte fun b =>
        let (byte, source, now) := b.device.take b.now limit
        (byte, { b with device := source, now := now }))
    (ofDevice (.portRead c.name))

def driveRts (c : SerialChannel) (level : Bool) : Act (Bench T) Unit := do
  let _ ← c.usePort
  Bench.touch (.portRts level)

end SerialChannel

inductive Channel
  | scripted (id : Nat)
  | serial (c : SerialChannel)
  deriving DecidableEq

namespace Channel

variable {T : Type} [TimeScale T]

def resource : Channel → Resource
  | scripted id => .channel id
  | serial c => .channel c.id

def title : Channel → String
  | scripted _ => "FakeChannel"
  | serial _ => "SerialChannel"

def source (b : Bench T) : Channel → ByteSource T
  | scripted id => b.scripts.get id
  | serial _ => b.device

def write (data : Bytes) : Channel → Act (Bench T) (Option Int)
  | scripted id =>
    Bench.perform (.write id data) Reply.accepted fun b =>
      ((b.scripts.get id).acceptance.answer data.length, b)
  | serial c => some <$> c.write data

def hasWaiting : Channel → Act (Bench T) Bool
  | scripted id =>
    Bench.perform (.hasWaiting id) Reply.truth fun b =>
      ((b.scripts.get id).phantom || !(b.scripts.get id).stale.isEmpty, b)
  | serial c => c.hasWaiting

def next (wait : Option T) : Channel → Act (Bench T) (Option UInt8)
  | scripted id =>
    Bench.perform (.read id wait) Reply.byte fun b =>
      if (b.scripts.get id).phantom then (none, b)
      else
        let (byte, source, now) := (b.scripts.get id).take b.now wait
        (byte, { b with scripts := b.scripts.set id source, now := now })
  | serial c => c.next (wait.map Wait.time)

end Channel
end SpindleLink
