import BotKeeper.Value

/-! Records and choices as values. A record is an object with one field for each
name, or an array with one item for each name in the order of declaration; fields
that have a default may be absent, and so may the last items of an array. A choice
is an object or an array with the kind in front. -/

namespace BotKeeper.Codec

/-- Whether an array may have more items than its record has fields. -/
inductive Surplus where
  | refused
  | ignored
  deriving DecidableEq

/-- The fields that a value gives to a record. -/
structure Fields where
  get? : String → Option Value
  /-- In an object, an absent field that may be empty is empty. -/
  named : Bool

/-- The fields of a record with the given names. Fields of other names are ignored,
but they must be readable; surplus items of an array are not even looked at. -/
def fields? (surplus : Surplus) (names : List String) : Value → Option Fields
  | .obj fields =>
    if fields.all fun (name, value) => names.contains name || value.isReadable then
      some ⟨fun name => fields.lookup name, true⟩
    else none
  | .arr items =>
    if surplus = .refused ∧ names.length < items.length then none
    else some ⟨fun name => (names.zip items).lookup name, false⟩
  | _ => none

namespace Fields

def required (fields : Fields) (name : String) (read : Value → Option α) : Option α :=
  (fields.get? name).bind read

/-- An absent field has its default. -/
def withDefault (fields : Fields) (name : String) (read : Value → Option α) (absent : α) :
    Option α :=
  match fields.get? name with
  | some value => read value
  | none => some absent

def nullable (fields : Fields) (name : String) (read : Value → Option α) : Option (Option α) :=
  match fields.get? name with
  | some .null => some none
  | some value => (read value).map some
  | none => if fields.named then some none else none

end Fields

/-- The kind of a choice, and the rest of the value, from which its record is read. -/
def choice? : Value → Option (String × Value)
  | .obj fields =>
    match fields.lookup "kind" with
    | some (.str kind) => some (kind, .obj fields)
    | _ => none
  | .arr (.str kind :: items) => some (kind, .arr items)
  | _ => none

/-- One of the options, by its name or by an object of that name that holds nothing. -/
def option? (name : α → String) (options : List α) : Value → Option α
  | .str text => options.find? fun option => name option == text
  | .obj [(text, .null)] => options.find? fun option => name option == text
  | _ => none

def nullOr (write : α → Value) : Option α → Value
  | some value => write value
  | none => .null

end BotKeeper.Codec
