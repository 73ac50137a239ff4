import SpindleLink.Numeric.Decimal
import SpindleLink.Numeric.Number
import SpindleLink.Text.Blank

/-! Values as they are offered for settings, and the readers that turn them into strings,
integers, numbers and truth values. -/

namespace SpindleLink

inductive Value
  | null
  | bool (b : Bool)
  | number (n : Number)
  | text (s : String)
  | compound

inductive Complaint
  | notText
  | notInteger
  | unreadableInteger
  | oversizedInteger
  | notFinite
  | fraction
  | notNumber
  | unreadableNumber
  | notTruth
  | unreadableTruth
  | notWiring
  | notPositive
  | negative
  | pinMissing
  deriving DecidableEq

namespace Complaint

def type : Complaint → String
  | notText => "string_type"
  | notInteger => "int_type"
  | unreadableInteger => "int_parsing"
  | oversizedInteger => "int_parsing_size"
  | notFinite => "finite_number"
  | fraction => "int_from_float"
  | notNumber => "float_type"
  | unreadableNumber => "float_parsing"
  | notTruth => "bool_type"
  | unreadableTruth => "bool_parsing"
  | notWiring => "literal_error"
  | notPositive => "greater_than"
  | negative => "greater_than_equal"
  | pinMissing => "value_error"

def message : Complaint → String
  | notText => "Input should be a valid string"
  | notInteger => "Input should be a valid integer"
  | unreadableInteger =>
    "Input should be a valid integer, unable to parse string as an integer"
  | oversizedInteger => "Unable to parse input string as an integer, exceeded maximum size"
  | notFinite => "Input should be a finite number"
  | fraction => "Input should be a valid integer, got a number with a fractional part"
  | notNumber => "Input should be a valid number"
  | unreadableNumber => "Input should be a valid number, unable to parse string as a number"
  | notTruth => "Input should be a valid boolean"
  | unreadableTruth => "Input should be a valid boolean, unable to interpret input"
  | notWiring => "Input should be 'rts' or 'gpio'"
  | notPositive => "Input should be greater than 0"
  | negative => "Input should be greater than or equal to 0"
  | pinMissing => "Value error, A GPIO pin is required when direction_line is 'gpio'"

end Complaint

namespace Value

def trimmed (cs : List Char) : List Char := Blank.trim Blank.isBlank cs

def toText : Value → Except Complaint String
  | text s => .ok s
  | _ => .error .notText

/-- The most characters of a written integer, once it is stripped. -/
def integerLimit : Nat := 4300

/-- A written integer. Blanks around it do not count, nor do leading zeros. -/
def readInt (s : String) : Except Complaint Int :=
  match Decimal.stripped? (trimmed s.toList) with
  | none => .error .unreadableInteger
  | some cs =>
    match Decimal.integer? cs with
    | none => .error .unreadableInteger
    | some n => if integerLimit < cs.length then .error .oversizedInteger else .ok n

/-- Whether an integer lies strictly between the powers of two that bound a word of 64 bits. -/
def isWord (n : Int) : Bool := -Nat.pow 2 63 < n ∧ n < Nat.pow 2 63

def wholeOf (x : Float) : Except Complaint Int :=
  match Binary64.value x with
  | .nan | .infinite _ => .error .notFinite
  | .finite _ _ _ =>
    match Binary64.whole? x with
    | none => .error .fraction
    | some n => if isWord n = true then .ok n else .error .oversizedInteger

/-- Integers, truth values as 0 and 1, doubles without a fraction, and written integers. -/
def toInt : Value → Except Complaint Int
  | bool b => .ok (if b then 1 else 0)
  | number (.whole n) => .ok n
  | number (.real x) => wholeOf x
  | text s => readInt s
  | null | compound => .error .notInteger

/-- A written number: without separators and with blanks around it, or the other way round. -/
def readFloat (s : String) : Except Complaint Float :=
  match Decimal.real? (trimmed s.toList) with
  | some x => .ok x
  | none =>
    match (Decimal.withoutSeparators? s.toList).bind Decimal.real? with
    | some x => .ok x
    | none => .error .unreadableNumber

/-- Numbers within the range of a double, truth values as 0 and 1, and written forms. -/
def toFloat : Value → Except Complaint Float
  | bool b => .ok (if b then 1 else 0)
  | number n =>
    match n.toFloat with
    | .ok x => .ok x
    | .error _ => .error .notNumber
  | text s => readFloat s
  | null | compound => .error .notNumber

def yesWords : List String := ["1", "on", "t", "true", "y", "yes"]

def noWords : List String := ["0", "off", "f", "false", "n", "no"]

def truthOfInt (n : Int) : Except Complaint Bool :=
  if n = 1 then .ok true else if n = 0 then .ok false else .error .unreadableTruth

/-- Truth values, the numbers 0 and 1, and words in any case. Integers beyond 64 bits and doubles
that are no integer within them are not even candidates. -/
def toTruth : Value → Except Complaint Bool
  | bool b => .ok b
  | number (.whole n) =>
    if -Nat.pow 2 63 ≤ n ∧ n < Nat.pow 2 63 then truthOfInt n else .error .notTruth
  | number (.real x) =>
    match wholeOf x with
    | .ok n => truthOfInt n
    | .error _ => .error .notTruth
  | text s =>
    let word := s.toLower
    if word ∈ yesWords then .ok true
    else if word ∈ noWords then .ok false
    else .error .unreadableTruth
  | null | compound => .error .notTruth

end Value
end SpindleLink
