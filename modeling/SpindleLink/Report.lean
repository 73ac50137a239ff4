import SpindleLink.Control
import SpindleLink.Frame.Status
import SpindleLink.Numeric.Binary64

/-! What a status frame says: the displayed frequency and the lamps of the panel. -/

namespace SpindleLink

/-- The lamps of the indicator byte, lowest bit first. -/
def lamps : List NamedBit :=
  [⟨"FAULT", 0⟩, ⟨"CLOCKWISE", 1⟩, ⟨"ANTICLOCKWISE", 2⟩, ⟨"ANALOG_INPUT", 3⟩,
    ⟨"MULTI_SEGMENT", 4⟩, ⟨"PANEL", 5⟩, ⟨"EXTERNAL_SIGNAL", 6⟩, ⟨"RESERVED", 7⟩]

/-- A displayed frequency, exact, in hundredths of a hertz. -/
structure Reading where
  hundredths : Int
  deriving DecidableEq

namespace Reading

def ofFrame (f : Status) : Reading := ⟨f.digits.foldl (fun n d => n * 10 + d) 0⟩

/-- The nearest double to the frequency in hertz, unless it is out of range. -/
def hz? (r : Reading) : Option Float := Binary64.quotient? r.hundredths 100

def rpm (r : Reading) : Int := rpmOf r.hundredths

/-- The frequency as whole hertz, a point, and two places. -/
def hertz (r : Reading) : List Char :=
  Numeral.filled 10 0 (r.hundredths / 100) ++ ['.'] ++ Numeral.filled 10 2 (r.hundredths % 100)

def describe (r : Reading) : String :=
  "FrequencyReading(" ++ String.ofList r.hertz ++ " Hz)"

end Reading

/-- A frequency with the lamps that were lit beside it. -/
structure Report where
  reading : Reading
  indicators : Int
  deriving DecidableEq

namespace Report

def ofFrame (f : Status) : Report := ⟨Reading.ofFrame f, f.indicators⟩

def lit (r : Report) : List NamedBit := lamps.filter fun lamp => lamp.isSet r.indicators

def names (r : Report) : List String := r.lit.map fun lamp => lamp.name.toLower

def fault (r : Report) : Bool := r.indicators % 2 = 1

/-- The lamp for clockwise wins over the other. -/
def rotation? (r : Report) : Option Rotation :=
  if r.indicators / 2 % 2 = 1 then some .forward
  else if r.indicators / 4 % 2 = 1 then some .reverse
  else none

end Report

def rpmLine (rpm : Int) : String := "Current RPM: " ++ Numeral.decimal rpm ++ "\n"

end SpindleLink
