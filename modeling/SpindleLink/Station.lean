import SpindleLink.Drive
import SpindleLink.Settings.Basic

/-! The station: at most one link to an inverter, and the tools that an operator calls. A tool
answers faults of the link with a refusal; what is not the link's fault is raised. -/

namespace SpindleLink

structure Link where
  settings : Settings
  channel : SerialChannel
  drive : Drive Float

structure Station where
  bench : Bench Float
  link : Option Link

inductive Answer
  | alreadyConnected (port : String)
  | connected (port : String) (baud : Int) (wiring : Wiring) (rotation : Rotation)
  | disconnected
  | started (isOn : Bool) (rotation : Rotation)
  | stopped (isOn : Bool)
  | speedSet (target commanded : Int) (isOn : Bool)
  | speed (reading : Reading)
  | status (report : Report)
  | refused (kind : Kind) (message : String)

inductive LinkState
  | disconnected
  | connected (port : String) (isOn : Bool) (rotation : Rotation)

namespace Station

variable {α : Type}

def onBench (x : Act (Bench Float) α) : Act Station α :=
  x.within Station.bench fun b s => { s with bench := b }

def setLink (link : Option Link) : Act Station Unit := .change fun s => { s with link := link }

/-- Notes a fault and answers with it. -/
def refuse (kind : Kind) (message : String) : Act Station Answer := do
  onBench (Bench.note (.refused kind message))
  pure (.refused kind message)

def directionFor (settings : Settings) (channel : SerialChannel) (id : Nat) : DirectionLine :=
  match settings.wiring, settings.pin with
  | .gpio, some pin => .gpio id pin
  | _, _ => .rts id channel true

/-- Opens the direction line and makes a line of it and an open channel. When that fails both are
closed again, unless it was interrupted. -/
def assemble (settings : Settings) (channel : SerialChannel) (direction : DirectionLine) :
    Act (Bench Float) Line :=
  Act.orElse (do
      direction.open
      let byteTime ← Act.ofExcept (settings.byteTime.mapError Fault.arithmetic)
      Line.make (.serial channel) direction (.real byteTime) .sleep)
    fun f => do
      Act.onlyIf (f.kind.isOrdinary = true) do
        direction.close
        channel.close
      .raise f

def establish (settings : Settings) : Act (Bench Float) Link := do
  let channel : SerialChannel := ⟨← Bench.fresh, settings.port, settings.baud⟩
  channel.open
  let direction := directionFor settings channel (← Bench.fresh)
  let line ← assemble settings channel direction
  Bench.note (.connected settings.port)
  pure ⟨settings, channel, Drive.make line settings.rotation (.time settings.readTimeout)⟩

/-- Connects to the inverter. Values that are null count as not given. -/
def connect (env : Settings.Environment) (given : Settings.Overrides) : Act Station Answer := do
  match ← Act.observe Station.link with
  | some link => pure (.alreadyConnected link.settings.port)
  | none =>
    match Settings.loadPresent env given with
    | .error problems => refuse .validation (Problem.summary problems)
    | .ok settings =>
      let link ← onBench (establish settings)
      setLink (some link)
      pure (.connected settings.port settings.baud settings.wiring settings.rotation)

/-- Gives up the line and the pin, then closes the channel in any case. -/
def disconnect : Act Station Answer := do
  match ← Act.observe Station.link with
  | none => pure .disconnected
  | some link =>
    let leaving := onBench do
      link.drive.line.release
      link.drive.line.direction.close
    leaving.ensuring do
      onBench link.channel.close
      setLink none
    pure .disconnected

/-- Lets the drive act. Faults that the tool answers for become refusals. -/
def operate (answers : Fault → Bool) (x : Drive Float → Act (Bench Float) (Drive Float × Answer)) :
    Act Station Answer := do
  match ← Act.observe Station.link with
  | none => .raise .notConnected
  | some link =>
    match ← (onBench (x link.drive)).attempt with
    | .ok (drive, answer) =>
      setLink (some { link with drive := drive })
      pure answer
    | .error f => if answers f then refuse f.kind f.message else .raise f

def ofInverter (f : Fault) : Bool := f.isA .inverter

def start : Act Station Answer :=
  operate ofInverter fun d => do
    let d ← d.start
    pure (d, .started d.isOn d.rotation)

def stop : Act Station Answer :=
  operate ofInverter fun d => do
    let d ← d.stop
    pure (d, .stopped d.isOn)

/-- Speeds that cannot be commanded are refused too. -/
def changeSpeed (rpm : Int) : Act Station Answer :=
  operate (fun f => ofInverter f || f.isA .value) fun d => do
    d.changeSpeed rpm
    pure (d, .speedSet rpm (rpm / 60 * 60) d.isOn)

def readSpeed (wait : Option (Wait Float)) : Act Station Answer :=
  operate ofInverter fun d => do
    let reading ← d.readSpeed wait
    pure (d, .speed reading)

/-- Passes over frames that do not validate. -/
def readReport (wait : Option (Wait Float)) : Act Station Answer :=
  operate ofInverter fun d => do
    let report ← d.readReport wait true
    pure (d, .status report)

def state (s : Station) : LinkState :=
  match s.link with
  | none => .disconnected
  | some link => .connected link.settings.port link.drive.isOn link.drive.rotation

end Station
end SpindleLink
