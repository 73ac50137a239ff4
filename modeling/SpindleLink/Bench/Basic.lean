import SpindleLink.Act
import SpindleLink.Bench.ByteSource
import SpindleLink.Note
import SpindleLink.Table

/-! The bench: the devices at the far side of the link as a value. It holds the clock, the byte
sources, open ports and pins, who owns what, which calls are going to fail, and the record of
every call that was made and of every note that was logged. -/

namespace SpindleLink

/-- The calls that reach a device. -/
inductive Call (T : Type)
  | delay (ms : Int)
  | sleep (seconds : T)
  | write (channel : Nat) (data : Bytes)
  | hasWaiting (channel : Nat)
  | read (channel : Nat) (wait : Option T)
  | engage (direction : Nat)
  | disengage (direction : Nat)
  | portOpen (name : String) (baud : Int)
  | portClose
  | portWrite (data : Bytes)
  | portFlush
  | portWaiting
  | portRead
  | portTimeout (wait : Option T)
  | portRts (level : Bool)
  | pinMode
  | pinSetup (pin : Int)
  | pinOutput (pin : Int) (high : Bool)
  | pinCleanup (pin : Int)

/-- The places at which calls can be made to fail. -/
inductive Point
  | delay
  | write (channel : Nat)
  | hasWaiting (channel : Nat)
  | read (channel : Nat)
  | engage (direction : Nat)
  | disengage (direction : Nat)
  | portOpen
  | portClose
  | portWrite
  | portFlush
  | portWaiting
  | portRead
  | portTimeout
  | portRts
  | pinMode
  | pinSetup
  | pinOutput
  | pinCleanup
  deriving DecidableEq

def Call.point {T : Type} : Call T → Point
  | delay _ | sleep _ => .delay
  | write channel _ => .write channel
  | hasWaiting channel => .hasWaiting channel
  | read channel _ => .read channel
  | engage direction => .engage direction
  | disengage direction => .disengage direction
  | portOpen _ _ => .portOpen
  | portClose => .portClose
  | portWrite _ => .portWrite
  | portFlush => .portFlush
  | portWaiting => .portWaiting
  | portRead => .portRead
  | portTimeout _ => .portTimeout
  | portRts _ => .portRts
  | pinMode => .pinMode
  | pinSetup _ => .pinSetup
  | pinOutput _ _ => .pinOutput
  | pinCleanup _ => .pinCleanup

inductive Reply
  | failed (f : Fault)
  | done
  | accepted (count : Option Int)
  | truth (b : Bool)
  | waiting (count : Nat)
  | byte (b : Option UInt8)

/-- A call with the instant at which it was made and its reply. -/
structure Entry (T : Type) where
  time : T
  call : Call T
  reply : Reply

def Entry.did {T : Type} (e : Entry T) : Call T × Reply := (e.call, e.reply)

/-- Which of the calls at one point fail, counted from when the plan was made. -/
structure FaultPlan where
  made : Nat
  fault : Nat → Option Fault

namespace FaultPlan

def never : FaultPlan := ⟨0, fun _ => none⟩

def after (count : Nat) (f : Fault) : FaultPlan := ⟨0, fun n => if n < count then none else some f⟩

def current (p : FaultPlan) : Option Fault := p.fault p.made

def step (p : FaultPlan) : FaultPlan := { p with made := p.made + 1 }

end FaultPlan

/-- A port that was opened. Pulling its plug leaves it there, but not open. -/
structure Port (T : Type) where
  isOpen : Bool
  /-- The wait that it was last told, none for ever. -/
  timeout : Option (Wait T)

inductive Resource
  | channel (id : Nat)
  | direction (id : Nat)
  deriving DecidableEq

structure Bench (T : Type) where
  now : T
  readings : Nat
  /-- How far the clock moves on with each of its readings. -/
  clockStep : Nat → T
  plans : Table Point FaultPlan
  scripts : Table Nat (ByteSource T)
  ports : Table Nat (Option (Port T))
  pins : Table Nat Bool
  device : ByteSource T
  hasPinLibrary : Bool
  owned : List Resource
  releasedLines : List Nat
  /-- Above every number in use for a channel, a direction line or a line. -/
  nextId : Nat
  trace : List (Entry T)
  log : List Note

namespace Bench

variable {T α : Type}

def empty [TimeScale T] (now : T) (clockStep : T) : Bench T where
  now := now
  readings := 0
  clockStep := fun _ => clockStep
  plans := .constant .never
  scripts := .constant .empty
  ports := .constant none
  pins := .constant false
  device := .empty
  hasPinLibrary := true
  owned := []
  releasedLines := []
  nextId := 0
  trace := []
  log := []

def record (c : Call T) (r : Reply) (b : Bench T) : Bench T :=
  { b with trace := b.trace ++ [⟨b.now, c, r⟩] }

def counted (c : Call T) (b : Bench T) : Bench T :=
  { b with plans := b.plans.update c.point FaultPlan.step }

/-- Makes a call. Where its plan has a fault the call has no other effect; else `work` gives its
result and what it changes. The trace shows the instant at which the call was made. -/
def perform (c : Call T) (reply : α → Reply) (work : Bench T → α × Bench T) :
    Act (Bench T) α := fun b =>
  match (b.plans.get c.point).current with
  | some f => (.error f, (b.counted c).record c (.failed f))
  | none =>
    let result := work (b.counted c)
    (.ok result.1, { result.2 with trace := result.2.trace ++ [⟨b.now, c, reply result.1⟩] })

theorem perform_of_fault {c : Call T} {reply : α → Reply} {work : Bench T → α × Bench T}
    {b : Bench T} {f : Fault} (h : (b.plans.get c.point).current = some f) :
    perform c reply work b = (.error f, (b.counted c).record c (.failed f)) := by
  simp [perform, h]

theorem perform_of_clear {c : Call T} {reply : α → Reply} {work : Bench T → α × Bench T}
    {b : Bench T} (h : (b.plans.get c.point).current = none) :
    perform c reply work b =
      (.ok (work (b.counted c)).1,
        { (work (b.counted c)).2 with
          trace := (work (b.counted c)).2.trace ++ [⟨b.now, c, reply (work (b.counted c)).1⟩] }) := by
  simp [perform, h]

@[simp] theorem trace_record (c : Call T) (r : Reply) (b : Bench T) :
    (b.record c r).trace = b.trace ++ [⟨b.now, c, r⟩] := rfl

@[simp] theorem trace_counted (c : Call T) (b : Bench T) : (b.counted c).trace = b.trace := rfl

/-- Other points do not notice a call. -/
theorem plans_counted_of_ne {c : Call T} {p : Point} (h : c.point ≠ p) (b : Bench T) :
    (b.counted c).plans.get p = b.plans.get p :=
  Table.get_set_of_ne _ h _

def signal (c : Call T) (effect : Bench T → Bench T) : Act (Bench T) Unit :=
  perform c (fun _ => .done) fun b => ((), effect b)

def touch (c : Call T) : Act (Bench T) Unit := signal c fun b => b

def note (n : Note) : Act (Bench T) Unit := .change fun b => { b with log := b.log ++ [n] }

variable [TimeScale T]

/-- Reads the clock, which moves on first. -/
def readClock : Act (Bench T) T := fun b =>
  let now := b.now + b.clockStep b.readings
  (.ok now, { b with now := now, readings := b.readings + 1 })

def advance (t : T) (b : Bench T) : Bench T := { b with now := b.now + t }

def fresh : Act (Bench T) Nat := fun b => (.ok b.nextId, { b with nextId := b.nextId + 1 })

end Bench

def Wait.resolve {T σ : Type} [TimeScale T] (w : Wait T) : Act σ T :=
  Act.ofExcept (w.toTime.mapError Fault.arithmetic)

@[simp] theorem Wait.resolve_time {T σ : Type} [TimeScale T] (t : T) (s : σ) :
    (Wait.time t).resolve s = (.ok t, s) := rfl

/-- How a line waits: by the delay it was given, or by sleeping. -/
inductive Pacing
  | delay
  | sleep
  deriving DecidableEq

def Pacing.pause {T : Type} [TimeScale T] (ms : Int) : Pacing → Act (Bench T) Unit
  | delay => do
    let seconds? := TimeScale.ofMillis? (T := T) ms
    Bench.signal (.delay ms) fun b => match seconds? with
      | some t => b.advance t
      | none => b
    Act.require (seconds?.isSome = true) (.arithmetic .quotientTooLarge)
  | sleep =>
    match TimeScale.ofMillis? ms with
    | some t => Bench.signal (.sleep t) (Bench.advance t)
    | none => Act.raise (.arithmetic .quotientTooLarge)

end SpindleLink
