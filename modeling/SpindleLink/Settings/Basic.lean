import SpindleLink.Channel
import SpindleLink.Settings.Value

/-! The settings of a link. Each field comes from the first of three places that has it: a value
given outright, a variable of the environment, the default. All fields are checked, then the
rule that ties two of them together. -/

namespace SpindleLink

inductive Wiring
  | rts
  | gpio
  deriving DecidableEq

def Wiring.word : Wiring → String
  | rts => "rts"
  | gpio => "gpio"

/-- The fields in the order in which they are checked. -/
inductive Field
  | port
  | baudrate
  | directionLine
  | gpioPin
  | reverse
  | readTimeout
  deriving DecidableEq

namespace Field

def all : List Field := [port, baudrate, directionLine, gpioPin, reverse, readTimeout]

def name : Field → String
  | port => "port"
  | baudrate => "baudrate"
  | directionLine => "direction_line"
  | gpioPin => "gpio_pin"
  | reverse => "reverse"
  | readTimeout => "read_timeout"

/-- The name of the variable in small letters; any case is read. -/
def variableName (f : Field) : String := "a131_" ++ f.name

theorem name_injective : Function.Injective name := by
  intro f g h
  cases f <;> cases g <;> first | rfl | simp [name] at h

end Field

/-- Which names stand for a field among values given outright. That is for the reader of settings
to say: a field's own name does, and no name stands for two fields. All others are passed over. -/
structure Naming where
  stands : Field → String → Bool
  own : ∀ f, stands f f.name = true
  single : ∀ {f g name}, stands f name = true → stands g name = true → f = g

namespace Naming

/-- Only its own name, to the letter. -/
def exact : Naming where
  stands f name := name = f.name
  own f := by simp
  single hf hg := Field.name_injective ((of_decide_eq_true hf).symm.trans (of_decide_eq_true hg))

/-- Its own name in any case, as for variables. -/
def anyCase : Naming where
  stands f name := name.toLower = f.name
  own f := by cases f <;> decide +kernel
  single hf hg := Field.name_injective ((of_decide_eq_true hf).symm.trans (of_decide_eq_true hg))

theorem stands_name_iff (naming : Naming) {f g : Field} :
    naming.stands f g.name = true ↔ f = g :=
  ⟨fun h => naming.single h (naming.own g), fun h => h ▸ naming.own f⟩

end Naming

structure Settings where
  port : String
  baud : Int
  wiring : Wiring
  pin : Option Int
  reverse : Bool
  /-- In seconds. -/
  readTimeout : Float

/-- A complaint about one field, or about the settings as a whole. -/
structure Problem where
  field : Option Field
  complaint : Complaint
  deriving DecidableEq

namespace Problem

def text (p : Problem) : String :=
  (match p.field with
    | some f => "\n" ++ f.name
    | none => "") ++
    "\n  " ++ p.complaint.message ++ " [type=" ++ p.complaint.type ++ "]"

/-- All complaints under a line that counts them. -/
def summary (ps : List Problem) : String :=
  Numeral.decimal ps.length ++
    (if ps.length = 1 then " validation error" else " validation errors") ++
    " for SpindleConfig" ++ String.join (ps.map text)

end Problem

namespace Settings

/-- Variables of the environment, the last one of a name counting. -/
abbrev Environment := List (String × String)

/-- Values given outright, the first that stands for a field counting. The options that the reader
of settings takes for itself, which say how to read, are not among them. -/
abbrev Overrides := List (String × Value)

/-- What is offered for each of the fields, if anything is. -/
abbrev Offer := Field → Option Value

def defaultTimeout : Float := 1

/-- The text of a variable whose name matches in any case. -/
def variableText (env : Environment) (f : Field) : Option String :=
  (env.reverse.find? fun v => v.1.toLower = f.variableName).map Prod.snd

def overrideValue (naming : Naming) (given : Overrides) (f : Field) : Option Value :=
  (given.find? fun o => naming.stands f o.1).map Prod.snd

def offered (naming : Naming) (env : Environment) (given : Overrides) : Offer := fun f =>
  match overrideValue naming given f with
  | some v => some v
  | none => (variableText env f).map Value.text

/-- Leaves out the values that are null. -/
def present (given : Overrides) : Overrides :=
  given.filter fun o => match o.2 with
    | .null => false
    | _ => true

/-- The value of a field: read and checked, or its default. -/
def resolve {α : Type} (default : α) (read : Value → Except Complaint α) :
    Option Value → Except Complaint α
  | none => .ok default
  | some v => read v

def readBaud (v : Value) : Except Complaint Int := do
  let n ← v.toInt
  if 0 < n then .ok n else .error .notPositive

/-- Blanks and separators around the word and the case of its letters do not count. -/
def readWiring : Value → Except Complaint Wiring
  | .text s =>
    let word := (String.ofList (Blank.trim Blank.isBlankOrSeparator s.toList)).toLower
    if word = "rts" then .ok .rts
    else if word = "gpio" then .ok .gpio
    else .error .notWiring
  | _ => .error .notWiring

def readPin : Value → Except Complaint (Option Int)
  | .null => .ok none
  | v => do
    let n ← v.toInt
    if 0 ≤ n then .ok (some n) else .error .negative

def readWait (v : Value) : Except Complaint Float := do
  let x ← v.toFloat
  if 0 < x then .ok x else .error .notPositive

def problem {α : Type} (f : Field) : Except Complaint α → List Problem
  | .ok _ => []
  | .error c => [⟨some f, c⟩]

/-- The settings that an offer amounts to, or every complaint in the order of the fields. A pin is
asked for only when all fields pass. -/
def settle (offer : Offer) : Except (List Problem) Settings :=
  let port := resolve SerialChannel.defaultName Value.toText (offer .port)
  let baud := resolve SerialChannel.defaultBaud readBaud (offer .baudrate)
  let wiring := resolve Wiring.rts readWiring (offer .directionLine)
  let pin := resolve none readPin (offer .gpioPin)
  let reverse := resolve false Value.toTruth (offer .reverse)
  let wait := resolve defaultTimeout readWait (offer .readTimeout)
  match port, baud, wiring, pin, reverse, wait with
  | .ok port, .ok baud, .ok wiring, .ok pin, .ok reverse, .ok wait =>
    if wiring = .gpio ∧ pin = none then .error [⟨none, .pinMissing⟩]
    else .ok ⟨port, baud, wiring, pin, reverse, wait⟩
  | _, _, _, _, _, _ => .error <|
    problem .port port ++ problem .baudrate baud ++ problem .directionLine wiring ++
      problem .gpioPin pin ++ problem .reverse reverse ++ problem .readTimeout wait

/-- The settings that an environment and given values amount to, by the names that stand for
fields. -/
def loadBy (naming : Naming) (env : Environment) (given : Overrides) :
    Except (List Problem) Settings :=
  settle (offered naming env given)

/-- As `loadBy`, null values counting as absent. -/
def loadPresentBy (naming : Naming) (env : Environment) (given : Overrides) :
    Except (List Problem) Settings :=
  loadBy naming env (present given)

/-- Nothing asks the reader of settings to heed case, so it heeds it neither in the names of
variables nor in those of values. -/
def load (env : Environment) (given : Overrides) : Except (List Problem) Settings :=
  loadBy .anyCase env given

def loadPresent (env : Environment) (given : Overrides) : Except (List Problem) Settings :=
  loadPresentBy .anyCase env given

def rotation (s : Settings) : Rotation := if s.reverse then .reverse else .forward

def byteTime (s : Settings) : Except ArithmeticFault Float := characterTime s.baud

end Settings
end SpindleLink
