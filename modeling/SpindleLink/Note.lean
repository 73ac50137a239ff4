import SpindleLink.Fault

/-! The records of the log. -/

namespace SpindleLink

inductive Level
  | debug
  | info
  | warning
  deriving DecidableEq

def Level.name : Level → String
  | debug => "DEBUG"
  | info => "INFO"
  | warning => "WARNING"

inductive Note
  | portOpened (port : String) (baud : Int)
  | portCloseFailed (port : String) (cause : Fault)
  | portClosed (port : String)
  | pinOpened (pin : Int)
  | sent (data : Bytes)
  | releaseFailed (cause : Fault)
  | discarded (count : Nat)
  | received (data : Bytes)
  | sendFailed (frame : Command) (data : Bytes) (cause : Fault)
  | started (rotation : Rotation)
  | stopped
  | speedSet (rpm frequency : Int)
  | statusRejected (data : Bytes) (cause : Fault)
  | statusMissing (wait : Thousandths) (count : Nat)
  | resynchronising (missing : Nat)
  | connected (port : String)
  | refused (kind : Kind) (message : String)

namespace Note

def level : Note → Level
  | sent _ | discarded _ | received _ | resynchronising _ => .debug
  | portOpened _ _ | portClosed _ | pinOpened _ | started _ | stopped | speedSet _ _
  | connected _ => .info
  | portCloseFailed _ _ | releaseFailed _ | sendFailed _ _ _ | statusRejected _ _
  | statusMissing _ _ | refused _ _ => .warning

def text : Note → String
  | portOpened port baud => "Opened " ++ port ++ " at " ++ Numeral.decimal baud ++ " baud"
  | portCloseFailed port cause => "Error closing " ++ port ++ ": " ++ cause.message
  | portClosed port => "Closed " ++ port
  | pinOpened pin => "Direction control on GPIO" ++ Numeral.decimal pin
  | sent data => "TX " ++ Hex.spaced data
  | releaseFailed cause => "Could not return line to receive mode: " ++ cause.message
  | discarded count => "Discarded " ++ Numeral.decimal count ++ " stale bytes"
  | received data => "RX " ++ Hex.spaced data
  | sendFailed frame data cause =>
    "Failed to send " ++ frame.describe data ++ ": " ++ cause.message
  | started rotation => "Spindle on (" ++ rotation.word ++ ")"
  | stopped => "Spindle off"
  | speedSet rpm frequency =>
    "Spindle speed set to " ++ Numeral.decimal rpm ++ " RPM (" ++ Numeral.decimal frequency ++
      " cHz)"
  | statusRejected data cause =>
    "Rejected status frame " ++ Hex.spaced data ++ ": " ++ cause.message
  | statusMissing wait count =>
    "No status frame within " ++ wait.text ++ " s (" ++ Numeral.decimal count ++ " bytes)"
  | resynchronising missing =>
    "Resynchronising, need " ++ Numeral.decimal missing ++ " more bytes"
  | connected port => "Connected to inverter on " ++ port
  | refused kind message => kind.name ++ ": " ++ message

end Note
end SpindleLink
