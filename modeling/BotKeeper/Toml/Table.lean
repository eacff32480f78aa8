import BotKeeper.Value

/-! Tables of a TOML document while it is read. A table remembers how it came
about, because that decides what may still be added to it. -/

namespace BotKeeper.Toml

inductive Origin where
  /-- By a header of its own. -/
  | header
  /-- On the way to the table of a header. -/
  | passage
  /-- On the way to a dotted key. -/
  | dotted
  /-- Between braces; nothing can be added. -/
  | closed
  deriving DecidableEq, Repr

inductive Node where
  | value (value : Value)
  | table (origin : Origin) (fields : List (String × Node))
  /-- An array of tables, each with a header of its own; the last one is open. -/
  | tables (items : List (List (String × Node)))

abbrev Fields := List (String × Node)

mutual

def Node.toValue : Node → Value
  | .value value => value
  | .table _ fields => .obj (fieldValues fields)
  | .tables items => .arr (itemValues items)

def fieldValues : List (String × Node) → List (String × Value)
  | [] => []
  | (key, node) :: rest => (key, node.toValue) :: fieldValues rest

def itemValues : List (List (String × Node)) → List Value
  | [] => []
  | fields :: rest => .obj (fieldValues fields) :: itemValues rest

end

def setField (key : String) (node : Node) : Fields → Fields
  | [] => [(key, node)]
  | (other, old) :: rest =>
    if other = key then (key, node) :: rest else (other, old) :: setField key node rest

/-- A change of a table of known origin, which may be refused. -/
abbrev Change := Origin → Fields → Option Fields

/-- The change made to the table at the end of a path. Missing tables on the way
are made. Dotted keys do not pass through tables that have a header. -/
def descend (byDots : Bool) (change : Change) : List String → Change
  | [], origin, fields => change origin fields
  | key :: path, _, fields =>
    match fields.lookup key with
    | none => do
      let origin := if byDots then Origin.dotted else .passage
      let changed ← descend byDots change path origin []
      return setField key (.table origin changed) fields
    | some (.table origin inner) =>
      if origin = .closed ∨ (byDots ∧ origin = .header) then none
      else do
        let changed ← descend byDots change path origin inner
        return setField key (.table origin changed) fields
    | some (.tables items) =>
      match items.reverse with
      | [] => none
      | last :: before => do
        let changed ← descend byDots change path .header last
        return setField key (.tables (before.reverse ++ [changed])) fields
    | some (.value _) => none

/-- A new field. A table holds either what dotted keys through it say, or what is said directly. -/
def addField (direct : Bool) (key : String) (node : Node) : Change := fun origin fields =>
  if (origin = .dotted) = direct then none
  else if (fields.lookup key).isSome then none
  else some (fields ++ [(key, node)])

/-- The value of a key, dotted or not, given in an open table. -/
def assign (path : List String) (key : String) (node : Node) : Change :=
  descend true (addField path.isEmpty key node) path

/-- The table of a header is opened. It may exist only as a passage. -/
def openTable (key : String) : Change := fun _ fields =>
  match fields.lookup key with
  | none => some (fields ++ [(key, .table .header [])])
  | some (.table .passage inner) => some (setField key (.table .header inner) fields)
  | some _ => none

def openItem (key : String) : Change := fun _ fields =>
  match fields.lookup key with
  | none => some (fields ++ [(key, .tables [[]])])
  | some (.tables items) => some (setField key (.tables (items ++ [[]])) fields)
  | some _ => none

end BotKeeper.Toml
