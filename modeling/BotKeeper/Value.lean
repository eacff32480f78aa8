/-! Structured data as documents carry it, and the readings of its scalars. A
reading is strict: nothing is converted, and a number outside the range of its
field is refused. -/

namespace BotKeeper

inductive Value where
  | null
  | bool (value : Bool)
  | int (value : Int)
  /-- A number that is not written as an integer. -/
  | real
  /-- A number that has no value, because of its digits or because it is too large.
  It can be passed over, but nothing can be read from it. -/
  | unreadable
  | str (text : String)
  | arr (items : List Value)
  | obj (fields : List (String × Value))
  deriving Inhabited

namespace Value

mutual

def isReadable : Value → Bool
  | unreadable => false
  | arr items => areReadable items
  | obj fields => fieldsReadable fields
  | _ => true

def areReadable : List Value → Bool
  | [] => true
  | item :: more => item.isReadable && areReadable more

def fieldsReadable : List (String × Value) → Bool
  | [] => true
  | (_, value) :: more => value.isReadable && fieldsReadable more

end

def bool? : Value → Option Bool
  | bool value => some value
  | _ => none

def string? : Value → Option String
  | str text => some text
  | _ => none

def natBelow? (limit : Nat) : Value → Option Nat
  | int (.ofNat value) => if value < limit then some value else none
  | _ => none

def uint16? (value : Value) : Option UInt16 :=
  (value.natBelow? UInt16.size).map .ofNat

def uint32? (value : Value) : Option UInt32 :=
  (value.natBelow? UInt32.size).map .ofNat

def uint64? (value : Value) : Option UInt64 :=
  (value.natBelow? UInt64.size).map .ofNat

def int32? : Value → Option Int32
  | int value =>
    if Int32.minValue.toInt ≤ value ∧ value ≤ Int32.maxValue.toInt then some (.ofInt value) else none
  | _ => none

def list? (read : Value → Option α) : Value → Option (List α)
  | arr items => items.mapM read
  | _ => none

/-- The entries of an object whose values all have one reading. -/
def entries? (read : Value → Option α) : Value → Option (List (String × α))
  | obj fields => fields.mapM fun (key, value) => (read value).map (key, ·)
  | _ => none

def ofNat (value : Nat) : Value :=
  int (.ofNat value)

def ofStrings (texts : List String) : Value :=
  arr (texts.map str)

end Value

end BotKeeper
