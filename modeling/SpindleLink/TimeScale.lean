import SpindleLink.Numeric.Number
import SpindleLink.Numeric.Thousandths

/-! Time as the link measures it. Doubles are one scale; nothing here asks for laws, so that a
scale with exact arithmetic is another. -/

namespace SpindleLink

/-- Seconds: instants and spans, with the arithmetic that deadlines need. -/
class TimeScale (T : Type) extends Zero T, Add T, Sub T, LE T, BEq T where
  decLe (a b : T) : Decidable (a ≤ b)
  /-- A number of milliseconds, unless it is out of range. -/
  ofMillis? (ms : Int) : Option T
  /-- A whole number of seconds. -/
  ofWhole (n : Int) : Except ArithmeticFault T
  /-- Whether a time is exactly a whole number of seconds. -/
  isWhole (t : T) (n : Int) : Bool
  thousandths (t : T) : Thousandths

instance TimeScale.decidableLe {T : Type} [TimeScale T] (a b : T) : Decidable (a ≤ b) :=
  TimeScale.decLe a b

instance TimeScale.float : TimeScale Float where
  zero := 0
  decLe a b := inferInstanceAs (Decidable (a ≤ b))
  ofMillis? ms := Binary64.quotient? ms 1000
  ofWhole n := (Number.whole n).toFloat
  isWhole t n := Binary64.whole? t = some n
  thousandths := Thousandths.ofFloat

/-- A wait as it is asked for: a time, or a whole number of seconds, which may lie beyond the
scale. -/
inductive Wait (T : Type)
  | time (t : T)
  | whole (n : Int)

namespace Wait

variable {T : Type} [TimeScale T]

def toTime : Wait T → Except ArithmeticFault T
  | time t => .ok t
  | whole n => TimeScale.ofWhole n

def same : Wait T → Wait T → Bool
  | time s, time t => s == t
  | time t, whole n | whole n, time t => TimeScale.isWhole t n
  | whole m, whole n => m = n

/-- As `same`; to wait for ever is no other wait. -/
def sameLimit : Option (Wait T) → Option (Wait T) → Bool
  | none, none => true
  | some v, some w => v.same w
  | _, _ => false

@[simp] theorem toTime_time (t : T) : (time t).toTime = .ok t := rfl

end Wait
end SpindleLink
