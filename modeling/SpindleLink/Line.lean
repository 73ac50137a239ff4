import SpindleLink.DirectionLine

/-! The half-duplex line: the only user of one channel and one direction line. A transmission is
framed by the direction signal, which holds as long as the bytes are on the wire; all other time
the line receives. -/

namespace SpindleLink

/-- A line by its parts. Whether it has been released the bench knows. -/
structure Line where
  id : Nat
  channel : Channel
  direction : DirectionLine
  /-- The milliseconds on the wire of one byte. -/
  byteTime : Number
  pacing : Pacing
  deriving DecidableEq

namespace Line

variable {T : Type}

/-- The wait between the direction signal and the first byte, in milliseconds. -/
def settle : Int := 1

/-- The wait after the direction signal has gone, in milliseconds. -/
def turnaround : Int := 50

/-- Faults of the operating system become faults of the link. -/
def ofSystem (wrap : Fault → Fault) (f : Fault) : Fault :=
  if f.isA .transport then f else if f.isA .system then wrap f else f

def switch (x : Act (Bench T) Unit) : Act (Bench T) Unit := x.relabel (ofSystem .direction)

def owns (r : Resource) (b : Bench T) : Bool := r ∈ b.owned

def take (l : Line) (b : Bench T) : Bench T :=
  { b with owned := l.channel.resource :: l.direction.resource :: b.owned }

def giveUp (l : Line) (b : Bench T) : Bench T :=
  { b with
    owned := b.owned.filter fun r => r ≠ l.channel.resource ∧ r ≠ l.direction.resource
    releasedLines := l.id :: b.releasedLines }

/-- Takes a channel and a direction line that nobody owns, and sets the line to receive. -/
def make (channel : Channel) (direction : DirectionLine) (byteTime : Number) (pacing : Pacing) :
    Act (Bench T) Line := do
  if byteTime.atMostZero then .raise (.byteTime byteTime)
  else if ← Act.observe (owns channel.resource) then .raise (.owned channel.title)
  else if ← Act.observe (owns direction.resource) then .raise (.owned direction.title)
  else
    switch direction.disengage
    let line : Line := ⟨← Bench.fresh, channel, direction, byteTime, pacing⟩
    Act.change line.take
    pure line

def isReleased (l : Line) (b : Bench T) : Bool := l.id ∈ b.releasedLines

/-- Sets the line to receive and gives up what it owns, even if the signal fails. Once released,
a line stays so. -/
def release (l : Line) : Act (Bench T) Unit := do
  if ← Act.observe l.isReleased then pure ()
  else (switch l.direction.disengage).ensuring (.change l.giveUp)

def requireHeld (l : Line) : Act (Bench T) Unit := do
  Act.require ((← Act.observe l.isReleased) = false) .lineReleased

theorem requireHeld_of_held {l : Line} {b : Bench T} (h : l.isReleased b = false) :
    l.requireHeld b = (.ok (), b) := by
  rw [requireHeld, Act.bind_ok (Act.observe_apply _ b), h]
  rfl

theorem requireHeld_of_released {l : Line} {b : Bench T} (h : l.isReleased b = true) :
    l.requireHeld b = (.error .lineReleased, b) := by
  rw [requireHeld, Act.bind_ok (Act.observe_apply _ b), h]
  rfl

variable [TimeScale T]

/-- The whole milliseconds that a number of bytes spends on the wire. -/
def holdTime (l : Line) (length : Int) : Except Fault Int :=
  (l.byteTime.timesCeiling length).mapError Fault.arithmetic

/-- From the signal to the end of the last byte. -/
def transmission (l : Line) (data : Bytes) : Act (Bench T) Unit := do
  switch l.direction.engage
  l.pacing.pause settle
  let accepted ← (l.channel.write data).relabel (ofSystem .channelWrite)
  Act.require (accepted = some (data.length : Int)) (.shortWrite accepted data.length)
  Bench.note (.sent data)
  let hold ← Act.ofExcept (l.holdTime data.length)
  l.pacing.pause hold

/-- Back to receiving after a failed transmission. A fault of the link met here is only noted. -/
def recover (l : Line) : Act (Bench T) Unit :=
  (switch l.direction.disengage).orElse fun f =>
    if f.isA .transport then Bench.note (.releaseFailed f) else .raise f

/-- Sends bytes and returns to receiving. When the sending fails the line recovers and the fault
is passed on, without the waits that would follow. -/
def send (l : Line) (data : Bytes) : Act (Bench T) Unit := do
  l.requireHeld
  match ← (l.transmission data).attempt with
  | .error f =>
    l.recover
    .raise f
  | .ok () =>
    switch l.direction.disengage
    l.pacing.pause turnaround

/-- Drops waiting bytes, at most as many as the fuel says. -/
def dropWaiting (l : Line) : Nat → Nat → Act (Bench T) Nat
  | 0, dropped => pure dropped
  | fuel + 1, dropped => do
    if ← l.channel.hasWaiting then
      match ← l.channel.next (some 0) with
      | some _ => l.dropWaiting fuel (dropped + 1)
      | none => pure dropped
    else pure dropped

/-- Drops the bytes that were buffered before now. One poll more than there are such bytes finds
none waiting. -/
def discardWaiting (l : Line) : Act (Bench T) Nat := do
  l.requireHeld
  let waiting ← Act.observe fun b => (l.channel.source b).stale.length
  let dropped ← l.dropWaiting (waiting + 1) 0
  Act.onlyIf (0 < dropped) (Bench.note (.discarded dropped))
  pure dropped

/-- Reads up to a number of bytes behind those already there; stops early when the deadline has
passed or no byte comes. -/
def collect (l : Line) (deadline : Option T) : Nat → Bytes → Act (Bench T) Bytes
  | 0, got => pure got
  | missing + 1, got => do
    match deadline with
    | none =>
      match ← l.channel.next none with
      | some b => l.collect deadline missing (got ++ [b])
      | none => pure got
    | some d =>
      let remaining := d - (← Bench.readClock)
      if remaining ≤ 0 then pure got
      else match ← l.channel.next (some remaining) with
        | some b => l.collect deadline missing (got ++ [b])
        | none => pure got

/-- Reads exactly `n` bytes within a wait, or for ever without one. The wait counts from behind
the discarding. -/
def receive (l : Line) (n : Int) (wait : Option (Wait T)) (flush : Bool) :
    Act (Bench T) Bytes := do
  l.requireHeld
  Act.onlyIf (flush = true) (discard l.discardWaiting)
  let deadline ← match wait with
    | none => pure none
    | some w => do pure (some ((← Bench.readClock) + (← w.resolve)))
  let got ← l.collect deadline n.toNat []
  if (got.length : Int) < n then .raise (.truncated got n)
  else
    Bench.note (.received got)
    pure got

end Line
end SpindleLink
