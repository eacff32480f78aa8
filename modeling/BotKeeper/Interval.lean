import BotKeeper.Text.Blank
import BotKeeper.Text.Numeral

/-! Durations written as a number and one of the units second, minute, hour and
day. The text of a duration is in the largest unit that measures it exactly, so
equal durations have equal texts. -/

namespace BotKeeper

inductive TimeUnit where
  | second
  | minute
  | hour
  | day
  deriving DecidableEq, Repr

namespace TimeUnit

def seconds : TimeUnit → Nat
  | second => 1
  | minute => 60
  | hour => 3600
  | day => 86400

def symbol : TimeUnit → Char
  | second => 's'
  | minute => 'm'
  | hour => 'h'
  | day => 'd'

def ofText? : List Char → Option TimeUnit
  | ['s'] => some second
  | ['m'] => some minute
  | ['h'] => some hour
  | ['d'] => some day
  | _ => none

end TimeUnit

/-- The numbers of seconds that a duration can have end below this one. -/
def secondLimit : Nat := UInt64.size

/-- A positive number of seconds within the range of durations. -/
structure Interval where
  seconds : Nat
  positive : 0 < seconds := by decide
  bounded : seconds < secondLimit := by decide
  deriving DecidableEq, Repr

namespace Interval

def sixHours : Interval := { seconds := 21600 }

/-- Why a text is no duration; each cause names the text without the white space around it. -/
inductive Fault where
  | missingUnit (text : String)
  | invalidAmount (text : String)
  | unknownUnit (text : String)
  | zero
  deriving DecidableEq, Repr

def Fault.message : Fault → String
  | missingUnit text => s!"Interval '{text}' is missing a unit"
  | invalidAmount text => s!"Invalid interval '{text}'"
  | unknownUnit text => s!"Unknown interval unit in '{text}'"
  | zero => "Interval must be greater than zero"

/-- The duration of a positive amount of a unit. One beyond the range is cut to the longest. -/
def ofAmount (amount : Nat) (unit : TimeUnit) (positive : 0 < amount) : Interval where
  seconds := min (amount * unit.seconds) (secondLimit - 1)
  positive := by
    have product : 0 < amount * unit.seconds := Nat.mul_pos positive (by cases unit <;> decide)
    have limit : 1 < secondLimit := by decide
    omega
  bounded := by
    have limit : 1 < secondLimit := by decide
    omega

/-- Reads digits followed by a unit, white space around them skipped. -/
def parse (text : String) : Except Fault Interval :=
  let shown := Text.trim text.toList
  let digits := shown.takeWhile Text.isDigit
  let amount := Text.numeral digits
  match shown.dropWhile Text.isDigit with
  | [] => .error (.missingUnit (.ofList shown))
  | unit =>
    if digits.isEmpty || secondLimit ≤ amount then .error (.invalidAmount (.ofList shown))
    else
      match TimeUnit.ofText? unit with
      | none => .error (.unknownUnit (.ofList shown))
      | some unit =>
        if positive : 0 < amount then .ok (ofAmount amount unit positive) else .error .zero

/-- The largest unit that measures the duration exactly. -/
def unit (interval : Interval) : TimeUnit :=
  if interval.seconds % TimeUnit.day.seconds = 0 then .day
  else if interval.seconds % TimeUnit.hour.seconds = 0 then .hour
  else if interval.seconds % TimeUnit.minute.seconds = 0 then .minute
  else .second

def text (interval : Interval) : String :=
  (toString (interval.seconds / interval.unit.seconds)).push interval.unit.symbol

end Interval

end BotKeeper
