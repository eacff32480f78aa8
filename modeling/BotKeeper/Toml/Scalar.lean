import BotKeeper.Text.Split
import BotKeeper.Toml.Scan
import BotKeeper.Value

/-! The values of a TOML document that are written without quotes: booleans,
integers, other numbers, dates and times. -/

namespace BotKeeper.Toml

/-- Digits of one kind, with single underscores between them; the underscores are dropped. -/
def digitRun? (isDigit : Char → Bool) : List Char → Option (List Char)
  | [] => none
  | [c] => if isDigit c then some [c] else none
  | c :: '_' :: rest => if isDigit c then (digitRun? isDigit rest).map (c :: ·) else none
  | c :: rest => if isDigit c then (digitRun? isDigit rest).map (c :: ·) else none

def signed : List Char → Option Char × List Char
  | '-' :: rest => (some '-', rest)
  | '+' :: rest => (some '+', rest)
  | text => (none, text)

def wholeDigits? (text : List Char) : Option (List Char) :=
  match digitRun? isDecimal text with
  | some ('0' :: _ :: _) => none
  | digits => digits

/-- The integers that can be handed on to a field of any width. -/
def inRange (value : Int) : Bool :=
  -(Nat.pow 2 127 : Int) ≤ value && value < (Nat.pow 2 128 : Int)

/-- Whether a group of digits between underscores may be part of an integer: next to
each underscore stands a hexadecimal digit. -/
def isGroup (last : Bool) (group : List Char) : Bool :=
  (group.head?.any isHexadecimal) && (last || group.getLast?.any isHexadecimal)

def areGroups : List (List Char) → Bool
  | [] => true
  | [group] => isGroup true group
  | group :: more => isGroup false group && areGroups more

/-- The characters that make a number other than an integer, or no number. -/
def isForeign (c : Char) : Bool :=
  c == '.' || c == 'e' || c == 'E' || c == ' '

/-- Whether a decimal integer is well formed. Only the digits before its first
underscore are held to be decimal; when others are not, it has no value. -/
def isInteger (text : List Char) : Bool :=
  let parts := Text.splitAt '_' text
  !text.any isForeign && areGroups parts &&
    match parts with
    | [['0']] => true
    | first :: _ => first.all isDecimal && first.head? != some '0'
    | [] => false

/-- The digits after the mark of a base. Where there are none, there is no value. -/
def inBase? (base : Nat) (isDigit : Char → Bool) : List Char → Option Value
  | [] => some .unreadable
  | digits => (digitRun? isDigit digits).map fun run =>
    let value : Int := digitsValue base run
    if inRange value then .int value else .unreadable

def integer? (text : List Char) : Option Value :=
  match text with
  | '0' :: 'x' :: digits => inBase? 16 isHexadecimal digits
  | '0' :: 'o' :: digits => inBase? 8 isOctal digits
  | '0' :: 'b' :: digits => inBase? 2 isBinary digits
  | text =>
    let (sign, number) := signed text
    if isInteger number then
      match digitRun? isDecimal number with
      | some run =>
        let value : Int := if sign = some '-' then -digitsValue 10 run else digitsValue 10 run
        some (if inRange value then .int value else .unreadable)
      | none => some .unreadable
    else none

/-- Whether a decimal number with an exponent is beyond the finite numbers of
double precision, by rounding to the nearest. -/
def tooLarge (digits : List Char) (exponent : Int) : Bool :=
  let value := digitsValue 10 digits
  let limit := Nat.pow 2 1024 - Nat.pow 2 970
  if value = 0 then false
  else if 400 < exponent then true
  else if exponent < -400 - (digits.length : Int) then false
  else if 0 ≤ exponent then limit ≤ value * Nat.pow 10 exponent.toNat
  else limit * Nat.pow 10 (-exponent).toNat ≤ value

def exponent? (text : List Char) : Option Int :=
  let (sign, digits) := signed text
  (digitRun? isDecimal digits).map fun run =>
    if sign = some '-' then -(digitsValue 10 run : Int) else digitsValue 10 run

def isExponentMark (c : Char) : Bool :=
  c == 'e' || c == 'E'

/-- A number with a fraction or an exponent, or one of the words for what is no
finite number. A number that is too large has no value. -/
def real? (text : List Char) : Option Value := do
  let (_, number) := signed text
  if number = "inf".toList ∨ number = "nan".toList then return .real
  let (mantissa, power) := number.span fun c => !isExponentMark c
  let (whole, fraction) := mantissa.span (· != '.')
  if fraction.isEmpty ∧ power.isEmpty then none
  let whole ← wholeDigits? whole
  let fraction ← match fraction with
    | [] => some []
    | _ :: digits => digitRun? isDecimal digits
  let power ← match power with
    | [] => some 0
    | _ :: digits => exponent? digits
  return if tooLarge (whole ++ fraction) (power - fraction.length) then .unreadable else .real

/-- A fixed number of digits with a value in a range, and the rest. -/
def fixedNumber? (width low high : Nat) (text : List Char) : Option (Nat × List Char) :=
  let digits := text.take width
  let value := digitsValue 10 digits
  if digits.length = width ∧ digits.all isDecimal ∧ low ≤ value ∧ value ≤ high then
    some (value, text.drop width)
  else none

def isLeapYear (year : Nat) : Bool :=
  year % 4 == 0 && (year % 100 != 0 || year % 400 == 0)

def daysInMonth (year month : Nat) : Nat :=
  if month = 2 then (if isLeapYear year then 29 else 28)
  else if month = 4 ∨ month = 6 ∨ month = 9 ∨ month = 11 then 30
  else 31

def afterDate? (text : List Char) : Option (List Char) := do
  let (year, rest) ← fixedNumber? 4 0 9999 text
  let '-' :: rest := rest | none
  let (month, rest) ← fixedNumber? 2 1 12 rest
  let '-' :: rest := rest | none
  let (_, rest) ← fixedNumber? 2 1 (daysInMonth year month) rest
  return rest

/-- What follows a fraction of a second, if there is one. -/
def afterFraction? : List Char → Option (List Char)
  | '.' :: rest =>
    match rest.takeWhile isDecimal with
    | [] => none
    | _ => some (rest.dropWhile isDecimal)
  | rest => some rest

/-- What follows a time of day, of which the seconds may be left off. -/
def afterTime? (text : List Char) : Option (List Char) := do
  let (_, rest) ← fixedNumber? 2 0 23 text
  let ':' :: rest := rest | none
  let (_, rest) ← fixedNumber? 2 0 59 rest
  match rest with
  | ':' :: rest =>
    let (_, rest) ← fixedNumber? 2 0 60 rest
    afterFraction? rest
  | rest => return rest

/-- What follows the distance from universal time, if there is one. -/
def afterOffset? : List Char → Option (List Char)
  | 'Z' :: rest => some rest
  | 'z' :: rest => some rest
  | '+' :: rest => afterDistance? rest
  | '-' :: rest => afterDistance? rest
  | rest => some rest
where
  afterDistance? (text : List Char) : Option (List Char) := do
    let (_, rest) ← fixedNumber? 2 0 23 text
    let ':' :: rest := rest | none
    let (_, rest) ← fixedNumber? 2 0 59 rest
    return rest

def isDateMark (c : Char) : Bool :=
  c == 'T' || c == 't' || c == ' '

def isMoment (text : List Char) : Bool :=
  match afterDate? text with
  | some [] => true
  | some (mark :: rest) =>
    isDateMark mark && (afterTime? rest).bind afterOffset? == some []
  | none => afterTime? text == some []

/-- The value of a text that stands without quotes. A moment is a record that has none
of the fields of any other record. -/
def scalar? (text : List Char) : Option Value :=
  if text = "true".toList then some (.bool true)
  else if text = "false".toList then some (.bool false)
  else (integer? text).or ((real? text).or (if isMoment text then some (.obj []) else none))

/-- The characters that end every text without quotes. -/
def isMark (c : Char) : Bool :=
  c == '=' || c == ',' || c == '[' || c == ']' || c == '\x7b' || c == '\x7d' || c == '#' ||
    c == '\r' || c == '\n'

/-- Whether a text without quotes goes on with the character after blanks. -/
def goesOn (c : Char) : Bool :=
  !isMark c && c != '.' && c != '"' && c != '\x27'

/-- The text of a value without quotes, and the rest. Blanks at its end are not part of it. -/
def scalarText : List Char → List Char × List Char
  | [] => ([], [])
  | c :: rest =>
    let ends := if isSpace c then !(skipSpaces rest).head?.any goesOn else isMark c
    if ends then ([], c :: rest)
    else
      let (text, rest) := scalarText rest
      (c :: text, rest)

end BotKeeper.Toml
