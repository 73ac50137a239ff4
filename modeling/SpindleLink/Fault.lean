import SpindleLink.Control
import SpindleLink.Numeric.Number
import SpindleLink.Numeric.Thousandths

/-! Everything that can go wrong on the link, by cause. A fault has a kind, which decides who
catches it, a message, and for cut input the bytes that did arrive. -/

namespace SpindleLink

inductive Kind
  | inverter
  | frame
  | cutFrame
  | badFrame
  | drive
  | transport
  | late
  | system
  | connection
  | timeout
  | permission
  | serial
  | value
  | validation
  | runtime
  | overflow
  | zeroDivision
  | missingModule
  | interrupt
  deriving DecidableEq

namespace Kind

def name : Kind → String
  | inverter => "A131Error"
  | frame => "FrameError"
  | cutFrame => "FrameTruncated"
  | badFrame => "FrameMalformed"
  | drive => "DriveError"
  | transport => "DriveIoError"
  | late => "DriveTimeout"
  | system => "OSError"
  | connection => "ConnectionError"
  | timeout => "TimeoutError"
  | permission => "PermissionError"
  | serial => "SerialException"
  | value => "ValueError"
  | validation => "ValidationError"
  | runtime => "RuntimeError"
  | overflow => "OverflowError"
  | zeroDivision => "ZeroDivisionError"
  | missingModule => "ModuleNotFoundError"
  | interrupt => "KeyboardInterrupt"

/-- The families that a kind belongs to, itself first. -/
def families : Kind → List Kind
  | frame => [frame, inverter]
  | cutFrame => [cutFrame, frame, inverter]
  | badFrame => [badFrame, frame, inverter]
  | drive => [drive, inverter]
  | transport => [transport, drive, inverter, system]
  | late => [late, drive, inverter, timeout, system]
  | connection => [connection, system]
  | timeout => [timeout, system]
  | permission => [permission, system]
  | serial => [serial, system]
  | validation => [validation, value]
  | k => [k]

def isA (k family : Kind) : Bool := family ∈ k.families

def all : List Kind :=
  [inverter, frame, cutFrame, badFrame, drive, transport, late, system,
    connection, timeout, permission, serial, value, validation, runtime, overflow, zeroDivision,
    missingModule, interrupt]

def ofName? (s : String) : Option Kind := all.find? fun k => k.name = s

/-- Whether an ordinary handler catches it: all but an interrupt. -/
def isOrdinary (k : Kind) : Bool := k ≠ interrupt

/-- Whether a fault of this kind tells which bytes arrived. -/
def hasReceived (k : Kind) : Bool := k = cutFrame ∨ k = late

@[simp] theorem isA_self (k : Kind) : k.isA k = true := by cases k <;> rfl

end Kind

inductive Lateness
  | within (wait : Thousandths)
  | beforeDeadline
  | told (message : String)
  deriving DecidableEq

def Lateness.message : Lateness → String
  | within wait => "No status frame within " ++ wait.text ++ " s"
  | beforeDeadline => "No valid status frame before the deadline"
  | told message => message

/-- A fault by its cause; `raised` is one that a device or a library brings about. -/
inductive Fault
  | raised (kind : Kind) (message : String)
  | arithmetic (f : ArithmeticFault)
  | defect (d : Defect)
  | rejected (r : Rejection)
  | speed (s : SpeedLimit)
  | rotation (word : String)
  | portRefused (port : String) (baud : Int) (cause : Fault)
  | portNotOpen (port : String)
  | portWrite (port : String) (cause : Fault)
  | portPoll (port : String) (cause : Fault)
  | portRead (port : String) (cause : Fault)
  | pinLibraryMissing
  | pinNotOpen (pin : Int)
  | byteTime (t : Number)
  | owned (resource : String)
  | direction (cause : Fault)
  | lineReleased
  | channelWrite (cause : Fault)
  | shortWrite (accepted : Option Int) (count : Nat)
  | truncated (received : Bytes) (wanted : Int)
  | late (why : Lateness) (received : Bytes)
  | notConnected

namespace Fault

def kind : Fault → Kind
  | raised kind _ => kind
  | arithmetic .divisionByZero => .zeroDivision
  | arithmetic .ceilingOfNan => .value
  | arithmetic _ => .overflow
  | defect d => if d.isShort then .cutFrame else .badFrame
  | rejected _ | speed _ | rotation _ | byteTime _ => .value
  | portRefused _ _ _ | portNotOpen _ | pinNotOpen _ => .connection
  | portWrite _ _ | portPoll _ _ | portRead _ _ | direction _ | channelWrite _
  | shortWrite _ _ => .transport
  | pinLibraryMissing => .missingModule
  | owned _ | lineReleased | notConnected => .runtime
  | truncated _ _ => .cutFrame
  | late _ _ => .late

def message : Fault → String
  | raised _ message => message
  | arithmetic f => f.message
  | defect d => d.message
  | rejected r => r.message
  | speed s => s.message
  | rotation word => Rotation.refusal word
  | portRefused port baud cause =>
    "Could not open serial port " ++ port ++ " at " ++ Numeral.decimal baud ++ " baud: " ++
      cause.message
  | portNotOpen port => "Serial port " ++ port ++ " is not open"
  | portWrite port cause => "Write to " ++ port ++ " failed: " ++ cause.message
  | portPoll port cause => "Polling " ++ port ++ " failed: " ++ cause.message
  | portRead port cause => "Read from " ++ port ++ " failed: " ++ cause.message
  | pinLibraryMissing => "No module named 'RPi'"
  | pinNotOpen pin => "GPIO" ++ Numeral.decimal pin ++ " has not been opened"
  | byteTime t => "Byte time must be positive, got " ++ t.text
  | owned resource => resource ++ " is already owned by another line"
  | direction cause => "Direction line failed: " ++ cause.message
  | lineReleased => "Line has been released"
  | channelWrite cause => "Channel write failed: " ++ cause.message
  | shortWrite accepted count =>
    "Short write: " ++ (match accepted with | some n => Numeral.decimal n | none => "None") ++
      " of " ++ Numeral.decimal count ++ " bytes sent"
  | truncated received wanted =>
    "Timed out after " ++ Numeral.decimal received.length ++ " of " ++ Numeral.decimal wanted ++
      " bytes"
  | late why _ => why.message
  | notConnected => "Not connected to the inverter. Use the 'connect' tool first."

def received : Fault → Bytes
  | defect d => d.received
  | truncated received _ => received
  | late _ received => received
  | _ => []

def isA (f : Fault) (family : Kind) : Bool := f.kind.isA family

end Fault
end SpindleLink
