import SpindleLink.Command
import SpindleLink.Line
import SpindleLink.Frame.Stream
import SpindleLink.Report

/-! The spindle drive on a line. Commands are never acknowledged, so the state is what was last
sent in full; the speed comes from the status frames that the inverter sends of its own accord. -/

namespace SpindleLink

structure Drive (T : Type) where
  line : Line
  rotation : Rotation
  /-- The wait for a status frame when none is given. -/
  readTimeout : Wait T
  isOn : Bool

namespace Drive

variable {T : Type} [TimeScale T]

def make (line : Line) (rotation : Rotation) (readTimeout : Wait T) : Drive T :=
  ⟨line, rotation, readTimeout, false⟩

/-- Transmits a command; a fault of the link is noted and passed on. -/
def send (d : Drive T) (frame : Command) : Act (Bench T) Unit := do
  let data ← Act.ofExcept (frame.toBytes.mapError Fault.rejected)
  (d.line.send data).orElse fun f => do
    Act.onlyIf (f.isA .transport = true) (Bench.note (.sendFailed frame data f))
    .raise f

/-- Starts the spindle; the drive as it is afterwards. -/
def start (d : Drive T) : Act (Bench T) (Drive T) := do
  let frame ← Act.ofExcept (Command.start d.rotation)
  d.send frame
  Bench.note (.started d.rotation)
  pure { d with isOn := true }

def stop (d : Drive T) : Act (Bench T) (Drive T) := do
  let frame ← Act.ofExcept Command.stop
  d.send frame
  Bench.note .stopped
  pure { d with isOn := false }

/-- Sends a speed. The run key goes with it exactly when the spindle is on, so that nothing starts
or stops. -/
def changeSpeed (d : Drive T) (rpm : Int) : Act (Bench T) Unit := do
  let frame ← Act.ofExcept (Command.speed rpm (speedKeys d.isOn))
  d.send frame
  Bench.note (.speedSet rpm frame.frequency)

/-- Receives bytes of status frames; cut input becomes a late frame. -/
def awaitBytes (d : Drive T) (wait : Wait T) (count : Nat) (flush : Bool) :
    Act (Bench T) Bytes :=
  (d.line.receive count (some wait) flush).orElse fun f => do
    if f.isA .cutFrame then
      let shown := TimeScale.thousandths (← wait.resolve)
      Bench.note (.statusMissing shown f.received.length)
      .raise (.late (.within shown) f.received)
    else .raise f

/-- Decodes the bytes of one status frame; a wrong frame is noted. -/
def decode (data : Bytes) : Act (Bench T) Status :=
  match Status.decode data with
  | .ok frame => pure frame
  | .error defect => do
    Act.onlyIf (defect.isShort = false) (Bench.note (.statusRejected data (.defect defect)))
    .raise (.defect defect)

/-- The frequency that the next status frame shows. -/
def readSpeed (d : Drive T) (wait : Option (Wait T)) : Act (Bench T) Reading := do
  let data ← d.awaitBytes (wait.getD d.readTimeout) FrameKind.status.size true
  Reading.ofFrame <$> decode data

def lateness : Fault → Lateness
  | .late why _ => why
  | f => .told f.message

/-- Slides on to the next valid frame: scans the buffer, keeps its tail, and reads as many bytes
as the tail lacks. Every refill takes at least one byte, so the unread bytes bound the rounds. -/
def resynchronise (d : Drive T) (deadline : T) : Nat → Bytes → Act (Bench T) Status
  | 0, buffer => .raise (.late .beforeDeadline buffer)
  | rounds + 1, buffer =>
    match Stream.scan buffer with
    | (some frame, _) => pure frame
    | (none, rest) => do
      let missing := FrameKind.status.size - rest.length
      Bench.note (.resynchronising missing)
      let remaining := deadline - (← Bench.readClock)
      if remaining ≤ 0 then .raise (.late .beforeDeadline rest)
      else
        let more ← (d.awaitBytes (.time remaining) missing false).relabel fun f =>
          if f.isA .late then .late (lateness f) (rest ++ f.received) else f
        d.resynchronise deadline rounds (rest ++ more)

/-- The next status frame with its indicators. With `resync`, frames that do not validate are
passed over, all within one deadline. -/
def readReport (d : Drive T) (wait : Option (Wait T)) (resync : Bool) : Act (Bench T) Report := do
  let wait := wait.getD d.readTimeout
  let deadline := (← Bench.readClock) + (← wait.resolve)
  let data ← d.awaitBytes wait FrameKind.status.size true
  if resync then
    let unread ← Act.observe fun b => (d.line.channel.source b).unread.length
    Report.ofFrame <$> d.resynchronise deadline (unread + 1) data
  else Report.ofFrame <$> decode data

end Drive
end SpindleLink
