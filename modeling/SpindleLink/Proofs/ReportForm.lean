import Mathlib.Data.List.Nodup
import Mathlib.Tactic.Ring
import SpindleLink.Proofs.SpeedAgreement

/-! What a report keeps of its frame. The lamps that it names make up the indicator byte bit by bit,
and its frequency the places of the display, so that the frame can be written again. -/

namespace SpindleLink
namespace NamedBit

def word (b : NamedBit) : String := b.name.toLower

end NamedBit

/-- The value of the bit that a report names by a word. -/
def weightOf (word : String) : Int :=
  ((lamps.find? fun lamp => lamp.word = word).map NamedBit.weight).getD 0

namespace Report

variable {r : Report}

/-- What a report says, against the bytes of its frame: they can be written again from the places
of the frequency and the lamps, each of which is named once, from the lowest bit up. -/
structure Keeps (r : Report) (data : Bytes) : Prop where
  hertz : ∃ x, r.reading.hz? = some x
  fits : 0 ≤ r.reading.hundredths ∧ r.reading.hundredths < 100000
  frame : Status.encode (displayOf r.reading.hundredths) (r.names.map weightOf).sum = .ok data
  known : r.names ⊆ lamps.map NamedBit.word
  distinct : r.names.Nodup
  ascending : (r.names.map weightOf).Pairwise (· < ·)
  fault : r.fault = true ↔ "fault" ∈ r.names
  forward : r.rotation? = some .forward ↔ "clockwise" ∈ r.names
  reverse : r.rotation? = some .reverse ↔ "anticlockwise" ∈ r.names ∧ "clockwise" ∉ r.names
  still : r.rotation? = none ↔ "anticlockwise" ∉ r.names ∧ "clockwise" ∉ r.names
  rpm : r.reading.rpm = r.reading.hundredths / 100 * 60

end Report

namespace Report

end Report
end SpindleLink
