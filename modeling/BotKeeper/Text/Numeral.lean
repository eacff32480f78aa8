/-! Runs of decimal digits and the numbers that they denote. -/

namespace BotKeeper.Text

def isDigit (c : Char) : Bool :=
  '0' ≤ c && c ≤ '9'

/-- The number that a run of decimal digits denotes; zeros in front do not count. -/
def numeral (digits : List Char) : Nat :=
  digits.foldl (fun value c => value * 10 + (c.toNat - '0'.toNat)) 0

end BotKeeper.Text
