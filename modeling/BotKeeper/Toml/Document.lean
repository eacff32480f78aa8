import BotKeeper.Toml.Scalar
import BotKeeper.Toml.Table
import BotKeeper.Toml.Text

/-! TOML documents, in version 1.1 of the format. -/

namespace BotKeeper.Toml

def isKeyChar (c : Char) : Bool :=
  c.isAlphanum || c == '_' || c == '-'

def keyPart (text : List Char) : Option (String × List Char) :=
  match text with
  | '"' :: _ => lineText text
  | '\x27' :: _ => lineText text
  | text =>
    match text.takeWhile isKeyChar with
    | [] => none
    | key => some (.ofList key, text.drop key.length)

/-- A key: its parts before the last one, and the last one. Blanks around it are skipped. -/
def key : Nat → Reader (List String × String)
  | 0, _ => none
  | fuel + 1, text => do
    let (part, rest) ← keyPart (skipSpaces text)
    match skipSpaces rest with
    | '.' :: rest =>
      let ((path, last), rest) ← key fuel rest
      return ((part :: path, last), rest)
    | rest => return (([], part), rest)

/-- How deeply arrays and tables between braces may be nested. -/
def maxDepth : Nat := 80

mutual

/-- A value. The depth says how many more levels may be opened. -/
def value (depth : Nat) : Nat → Reader Node
  | 0, _ => none
  | fuel + 1, text =>
    match text with
    | '"' :: _ => do
      let (content, rest) ← string text
      return (.value (.str content), rest)
    | '\x27' :: _ => do
      let (content, rest) ← string text
      return (.value (.str content), rest)
    | '[' :: rest =>
      match depth with
      | 0 => none
      | depth + 1 => do
        let (items, rest) ← items depth fuel rest
        return (.value (.arr items), rest)
    | '\x7b' :: rest =>
      match depth with
      | 0 => none
      | depth + 1 => do
        let (fields, rest) ← fields depth fuel [] rest
        return (.table .closed fields, rest)
    | text => do
      let (word, rest) := scalarText text
      return (.value (← scalar? word), rest)

def items (depth : Nat) : Nat → Reader (List Value)
  | 0, _ => none
  | fuel + 1, text =>
    match skipLines text.length text with
    | ']' :: rest => some ([], rest)
    | text => do
      let (item, rest) ← value depth fuel text
      match skipLines rest.length rest with
      | ',' :: rest =>
        let (more, rest) ← items depth fuel rest
        return (item.toValue :: more, rest)
      | ']' :: rest => return ([item.toValue], rest)
      | _ => none

def fields (depth : Nat) : Nat → Fields → Reader Fields
  | 0, _, _ => none
  | fuel + 1, read, text =>
    match skipLines text.length text with
    | '\x7d' :: rest => some (read, rest)
    | text => do
      let ((path, last), rest) ← key text.length text
      let '=' :: rest := skipLines rest.length rest | none
      let (node, rest) ← value depth fuel (skipLines rest.length rest)
      let read ← assign path last node .closed read
      match skipLines rest.length rest with
      | ',' :: rest => fields depth fuel read rest
      | '\x7d' :: rest => return (read, rest)
      | _ => none

end

/-- A document that is being read: all fields, and the path of the open table. -/
structure Draft where
  root : Fields := []
  path : List String := []

def Draft.header (draft : Draft) (text : List Char) : Option (Draft × List Char) := do
  match text with
  | '[' :: text =>
    let ((path, last), rest) ← key text.length text
    let ']' :: ']' :: rest := rest | none
    let root ← descend false (openItem last) path .header draft.root
    return ({ root, path := path ++ [last] }, rest)
  | text =>
    let ((path, last), rest) ← key text.length text
    let ']' :: rest := rest | none
    let root ← descend false (openTable last) path .header draft.root
    return ({ root, path := path ++ [last] }, rest)

def Draft.assignment (draft : Draft) (text : List Char) : Option (Draft × List Char) := do
  let ((path, last), rest) ← key text.length text
  let '=' :: rest := rest | none
  let (node, rest) ← value maxDepth (rest.length + 1) (skipSpaces rest)
  let root ← descend false (assign path last node) draft.path .header draft.root
  return ({ draft with root }, rest)

def Draft.lines (draft : Draft) : Nat → List Char → Option Draft
  | 0, _ => none
  | fuel + 1, text =>
    match skipLines text.length text with
    | [] => some draft
    | '[' :: rest => do
      let (draft, rest) ← draft.header rest
      draft.lines fuel (← endOfLine? rest)
    | text => do
      let (draft, rest) ← draft.assignment text
      draft.lines fuel (← endOfLine? rest)

/-- The mark that may stand in front of a text to tell its encoding. -/
def byteOrderMark : Char := '\uFEFF'

/-- The value of a document. One mark of its encoding in front is skipped. -/
def document? (text : String) : Option Value :=
  let body := match text.toList with
    | first :: rest => if first = byteOrderMark then rest else first :: rest
    | [] => []
  (({} : Draft).lines (body.length + 1) body).map fun draft => .obj (fieldValues draft.root)

end BotKeeper.Toml
