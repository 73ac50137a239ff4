import SpindleLink.Station

/-! Sessions: a scripted run of steps on a bench with its own channels, direction lines, lines and
drives beside the station. Each step gives an outcome and what it left in the records. -/

namespace SpindleLink

/-- A change of a byte source: more bytes in its queues, other values for the rest. -/
structure SourceChange where
  stale : Bytes
  incoming : Bytes
  gap : Option Float
  acceptance : Option Acceptance
  phantom : Option Bool

def SourceChange.apply (c : SourceChange) (s : ByteSource Float) : ByteSource Float where
  stale := s.stale ++ c.stale
  incoming := s.incoming ++ c.incoming
  gap := c.gap.getD s.gap
  acceptance := c.acceptance.getD s.acceptance
  phantom := c.phantom.getD s.phantom

/-- A change that comes from outside, not from a call. -/
inductive Adjustment
  | source (id : Nat) (change : SourceChange)
  | device (change : SourceChange)
  | plan (point : Point) (plan : FaultPlan)
  | unplug (channel : SerialChannel)
  | clockStep (t : Float)
  | elapse (t : Float)
  | pinLibrary (present : Bool)

def Adjustment.apply (b : Bench Float) : Adjustment → Bench Float
  | source id change => { b with scripts := b.scripts.update id change.apply }
  | device change => { b with device := change.apply b.device }
  | plan point p => { b with plans := b.plans.set point p }
  | unplug channel =>
    { b with ports := b.ports.update channel.id (Option.map fun p => { p with isOpen := false }) }
  | clockStep t => { b with clockStep := fun _ => t }
  | elapse t => b.advance t
  | pinLibrary present => { b with hasPinLibrary := present }

inductive LineStep
  | send (data : Bytes)
  | receive (n : Int) (wait : Option (Wait Float)) (flush : Bool)
  | holdTime (length : Int)
  | byteTime
  | discardWaiting
  | release

inductive ChannelStep
  | info
  | byteTime
  | «open»
  | close
  | rts (level : Bool)
  | write (data : Bytes)
  | hasWaiting
  | next (wait : Option (Wait Float))

inductive DirectionStep
  | engage
  | disengage
  | «open»
  | close
  | pin

inductive DriveStep
  | start
  | stop
  | changeSpeed (rpm : Int)
  | readSpeed (wait : Option (Wait Float))
  | readReport (wait : Option (Wait Float)) (resync : Bool)
  | state

inductive ToolStep
  | connect (given : Settings.Overrides)
  | disconnect
  | start
  | stop
  | changeSpeed (rpm : Int)
  | readSpeed (wait : Option (Wait Float))
  | readReport (wait : Option (Wait Float))
  | state

/-- A step of a session. Channels and direction lines are those it began with; lines and drives
go by their number. -/
inductive Step
  | adjust (changes : List Adjustment)
  | newLine (channel : Channel) (direction : DirectionLine) (byteTime : Option Number)
    (pacing : Pacing)
  | newDrive (line : Nat) (rotation : Option String) (readTimeout : Option (Wait Float))
  | line (number : Nat) (step : LineStep)
  | channel (c : SerialChannel) (step : ChannelStep)
  | direction (d : DirectionLine) (step : DirectionStep)
  | drive (number : Nat) (step : DriveStep)
  | tool (step : ToolStep)

inductive Outcome
  | nothing
  | integer (n : Int)
  | truth (b : Bool)
  | bytes (data : Bytes)
  | byte (b : Option UInt8)
  | time (t : Float)
  | reading (r : Reading)
  | report (r : Report)
  | channelInfo (connected : Bool) (port : String) (baud : Int)
  | driveState (isOn : Bool) (rotation : Rotation)
  | answer (a : Answer)
  | linkState (s : LinkState)

/-- What is told beside the outcome, as it stands after the step. -/
inductive Aside
  | none
  | isOn (b : Bool)
  | state (s : LinkState)

structure StepRecord where
  outcome : Except Fault Outcome
  calls : List (Entry Float)
  notes : List Note
  now : Float
  aside : Aside

structure Session where
  station : Station
  env : Settings.Environment
  lines : List Line
  drives : List (Drive Float)

namespace Session

def onStation {α : Type} (x : Act Station α) : Act Session α :=
  x.within Session.station fun station s => { s with station := station }

def onBench {α : Type} (x : Act (Bench Float) α) : Act Session α := onStation (Station.onBench x)

/-- Made before the first step: a bench with its adjustments, and the number of channels and
direction lines on it. The clock is put forward from zero. -/
def begin (start clockStep : Float) (resources : Nat) (env : Settings.Environment)
    (changes : List Adjustment) : Session where
  station :=
    { bench := changes.foldl Adjustment.apply
        { Bench.empty (0 + start) clockStep with nextId := resources }
      link := none }
  env := env
  lines := []
  drives := []

/-- The wire time of one byte where none was given; a scripted channel takes a millisecond. -/
def defaultByteTime : Channel → Except Fault Number
  | .serial c => do
    let t ← (characterTime c.baud).mapError Fault.arithmetic
    pure (.real t)
  | .scripted _ => .ok (.whole 1)

def lineStep (l : Line) : LineStep → Act (Bench Float) Outcome
  | .send data => do
    l.send data
    pure .nothing
  | .receive n wait flush => Outcome.bytes <$> l.receive n wait flush
  | .holdTime length => Outcome.integer <$> Act.ofExcept (l.holdTime length)
  | .byteTime => Outcome.time <$> Act.ofExcept (l.byteTime.toFloat.mapError Fault.arithmetic)
  | .discardWaiting => (fun n : Nat => Outcome.integer n) <$> l.discardWaiting
  | .release => do
    l.release
    pure .nothing

def channelStep (c : SerialChannel) : ChannelStep → Act (Bench Float) Outcome
  | .info => do pure (.channelInfo (← Act.observe c.connected) c.name c.baud)
  | .byteTime => Outcome.time <$> Act.ofExcept ((characterTime c.baud).mapError Fault.arithmetic)
  | .open => do
    c.open
    pure .nothing
  | .close => do
    c.close
    pure .nothing
  | .rts level => do
    c.driveRts level
    pure .nothing
  | .write data => Outcome.integer <$> c.write data
  | .hasWaiting => Outcome.truth <$> c.hasWaiting
  | .next wait => Outcome.byte <$> c.next wait

def directionStep (d : DirectionLine) : DirectionStep → Act (Bench Float) Outcome
  | .engage => do
    d.engage
    pure .nothing
  | .disengage => do
    d.disengage
    pure .nothing
  | .open => do
    d.open
    pure .nothing
  | .close => do
    d.close
    pure .nothing
  | .pin => pure ((d.pin?.map Outcome.integer).getD .nothing)

/-- The drive after a step beside the outcome. -/
def driveStep (d : Drive Float) : DriveStep → Act (Bench Float) (Drive Float × Outcome)
  | .start => do pure (← d.start, .nothing)
  | .stop => do pure (← d.stop, .nothing)
  | .changeSpeed rpm => do
    d.changeSpeed rpm
    pure (d, .nothing)
  | .readSpeed wait => do pure (d, .reading (← d.readSpeed wait))
  | .readReport wait resync => do pure (d, .report (← d.readReport wait resync))
  | .state => pure (d, .driveState d.isOn d.rotation)

def toolStep (env : Settings.Environment) : ToolStep → Act Station Outcome
  | .connect given => Outcome.answer <$> Station.connect env given
  | .disconnect => Outcome.answer <$> Station.disconnect
  | .start => Outcome.answer <$> Station.start
  | .stop => Outcome.answer <$> Station.stop
  | .changeSpeed rpm => Outcome.answer <$> Station.changeSpeed rpm
  | .readSpeed wait => Outcome.answer <$> Station.readSpeed wait
  | .readReport wait => Outcome.answer <$> Station.readReport wait
  | .state => Outcome.linkState <$> Act.observe Station.state

/-- A rotation by its word, forward without one. -/
def rotationOf : Option String → Except Fault Rotation
  | none => .ok .forward
  | some word =>
    match Rotation.ofWord? word with
    | some r => .ok r
    | none => .error (.rotation word)

def perform : Step → Act Session Outcome
  | .adjust changes => do
    Act.change fun s =>
      { s with station.bench := changes.foldl Adjustment.apply s.station.bench }
    pure .nothing
  | .newLine channel direction byteTime pacing => do
    let byteTime ← Act.ofExcept (byteTime.elim (defaultByteTime channel) .ok)
    let line ← onBench (Line.make channel direction byteTime pacing)
    let number ← Act.observe fun s => s.lines.length
    Act.change fun s => { s with lines := s.lines ++ [line] }
    pure (.integer number)
  | .newDrive number rotation readTimeout => do
    let rotation ← Act.ofExcept (rotationOf rotation)
    match (← Act.observe Session.lines)[number]? with
    | none => pure .nothing
    | some line =>
      let made ← Act.observe fun s => s.drives.length
      let drive := Drive.make line rotation (readTimeout.getD (.time Settings.defaultTimeout))
      Act.change fun s => { s with drives := s.drives ++ [drive] }
      pure (.integer made)
  | .line number step => do
    match (← Act.observe Session.lines)[number]? with
    | none => pure .nothing
    | some line => onBench (lineStep line step)
  | .channel c step => onBench (channelStep c step)
  | .direction d step => onBench (directionStep d step)
  | .drive number step => do
    match (← Act.observe Session.drives)[number]? with
    | none => pure .nothing
    | some drive =>
      let (drive, outcome) ← onBench (driveStep drive step)
      Act.change fun s => { s with drives := s.drives.set number drive }
      pure outcome
  | .tool step => do
    let env ← Act.observe Session.env
    onStation (toolStep env step)

def asideOf (s : Session) : Step → Aside
  | .drive number _ => (s.drives[number]?.map fun d => Aside.isOn d.isOn).getD .none
  | .tool _ => .state s.station.state
  | _ => .none

def step (s : Session) (x : Step) : StepRecord × Session :=
  let before := s.station.bench
  let (outcome, s') := perform x s
  let after := s'.station.bench
  ({ outcome := outcome
     calls := after.trace.drop before.trace.length
     notes := after.log.drop before.log.length
     now := after.now
     aside := asideOf s' x }, s')

/-- The records of all steps, and the session in the end. -/
def run (s : Session) : List Step → List StepRecord × Session
  | [] => ([], s)
  | x :: xs =>
    let (record, s') := s.step x
    let (records, last) := s'.run xs
    (record :: records, last)

end Session
end SpindleLink
