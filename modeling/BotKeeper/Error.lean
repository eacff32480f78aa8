import BotKeeper.Lifecycle
import BotKeeper.Phase

/-! What can go wrong, by cause. An error has a kind with a fixed code and a
payload of named texts, from which its message is made: the order in which the
payload is listed has no effect on the message. -/

namespace BotKeeper

inductive ErrorKind where
  | instanceNotFound
  | instanceAlreadyExists
  | alreadyRunning
  | invalidTransition
  | instanceBusy
  | anyInstanceRunning
  | updateInProgress
  | spawn
  | alreadyExists
  | unsupportedTarget
  | config
  | io
  | process
  deriving DecidableEq, Repr

namespace ErrorKind

/-- The word with which a message begins. -/
def title : ErrorKind → String
  | instanceNotFound => "InstanceNotFound"
  | instanceAlreadyExists => "InstanceAlreadyExists"
  | alreadyRunning => "AlreadyRunning"
  | invalidTransition => "InvalidTransition"
  | instanceBusy => "InstanceBusy"
  | anyInstanceRunning => "AnyInstanceRunning"
  | updateInProgress => "UpdateInProgress"
  | spawn => "Spawn"
  | alreadyExists => "AlreadyExists"
  | unsupportedTarget => "UnsupportedTarget"
  | config => "Config"
  | io => "Io"
  | process => "Process"

def name : ErrorKind → String
  | instanceNotFound => "instance_not_found"
  | instanceAlreadyExists => "instance_already_exists"
  | alreadyRunning => "already_running"
  | invalidTransition => "invalid_transition"
  | instanceBusy => "instance_busy"
  | anyInstanceRunning => "any_instance_running"
  | updateInProgress => "update_in_progress"
  | spawn => "spawn"
  | alreadyExists => "already_exists"
  | unsupportedTarget => "unsupported_target"
  | config => "config"
  | io => "io"
  | process => "process"

def code : ErrorKind → Nat
  | instanceNotFound => 1001
  | instanceAlreadyExists => 1002
  | alreadyRunning => 1003
  | invalidTransition => 1004
  | instanceBusy => 1005
  | anyInstanceRunning => 1006
  | updateInProgress => 1007
  | config => 2001
  | io => 2002
  | alreadyExists => 2003
  | unsupportedTarget => 2004
  | spawn => 3001
  | process => 3002

end ErrorKind

inductive SpawnReason where
  | executableNotFound
  | permissionDenied
  | other
  deriving DecidableEq, Repr

namespace SpawnReason

def name : SpawnReason → String
  | executableNotFound => "executable_not_found"
  | permissionDenied => "permission_denied"
  | other => "other"

def all : List SpawnReason :=
  [executableNotFound, permissionDenied, other]

end SpawnReason

/-- Named texts. No two entries have the same name, and their order means nothing. -/
abbrev Payload := List (String × String)

namespace Payload

/-- The texts of all entries, smallest first. -/
def texts (payload : Payload) : List String :=
  (payload.map fun (key, value) => key ++ "=" ++ value).mergeSort (fun left right => decide (left ≤ right))

/-- The kind, followed by the texts of the payload where there are any. -/
def message (kind : ErrorKind) (payload : Payload) : String :=
  match payload.texts with
  | [] => kind.title
  | texts => kind.title ++ ": " ++ String.intercalate ", " texts

end Payload

inductive Error where
  | instanceNotFound (id : AccountId)
  | instanceAlreadyExists (id : AccountId)
  /-- A start of an instance that is not stopped. -/
  | alreadyRunning (id : AccountId) (phase : Phase)
  /-- A command that the phase does not allow. -/
  | invalidTransition (id : AccountId) (command : String) (phase : Phase)
  /-- An operation that asks for a stopped instance. -/
  | instanceBusy (id : AccountId) (phase : Phase)
  | anyInstanceRunning (ids : List AccountId)
  /-- A start while the shared program is being replaced. -/
  | updateInProgress
  | spawn (id : AccountId) (reason : SpawnReason) (detail : String)
  | alreadyExists (path : String)
  /-- A script that cannot run on the host it is made for. -/
  | unsupportedTarget (target os : String)
  | config (detail : String)
  | io (detail : String)
  | process (detail : String)
  | custom (kind : ErrorKind) (payload : Payload)
  deriving DecidableEq, Repr

namespace Error

def kind : Error → ErrorKind
  | instanceNotFound _ => .instanceNotFound
  | instanceAlreadyExists _ => .instanceAlreadyExists
  | alreadyRunning _ _ => .alreadyRunning
  | invalidTransition _ _ _ => .invalidTransition
  | instanceBusy _ _ => .instanceBusy
  | anyInstanceRunning _ => .anyInstanceRunning
  | updateInProgress => .updateInProgress
  | spawn _ _ _ => .spawn
  | alreadyExists _ => .alreadyExists
  | unsupportedTarget _ _ => .unsupportedTarget
  | config _ => .config
  | io _ => .io
  | process _ => .process
  | custom kind _ => kind

def detailPayload (detail : String) : Payload :=
  if detail.isEmpty then [] else [("detail", detail)]

def payload : Error → Payload
  | instanceNotFound id => [("id", toString id)]
  | instanceAlreadyExists id => [("id", toString id)]
  | alreadyRunning id phase => [("id", toString id), ("phase", phase.name)]
  | invalidTransition id command phase =>
    [("id", toString id), ("command", command), ("phase", phase.name)]
  | instanceBusy id phase => [("id", toString id), ("phase", phase.name)]
  | anyInstanceRunning ids => [("ids", String.intercalate "," (ids.map toString))]
  | updateInProgress => []
  | spawn id reason detail => [("id", toString id), ("reason", reason.name), ("detail", detail)]
  | alreadyExists path => [("path", path)]
  | unsupportedTarget target os => [("target", target), ("os", os)]
  | config detail => detailPayload detail
  | io detail => detailPayload detail
  | process detail => detailPayload detail
  | custom _ payload => payload

def code (error : Error) : Nat :=
  error.kind.code

def message (error : Error) : String :=
  error.payload.message error.kind

def get? (error : Error) (key : String) : Option String :=
  error.payload.lookup key

/-- Starting what is not stopped is a transition that is not allowed, too. -/
def isInvalidTransition (error : Error) : Bool :=
  error.kind == .invalidTransition || error.kind == .alreadyRunning

end Error

instance decidableEqExcept {ε α : Type} [DecidableEq ε] [DecidableEq α] :
    DecidableEq (Except ε α)
  | .ok left, .ok right => decidable_of_iff (left = right) (by simp)
  | .error left, .error right => decidable_of_iff (left = right) (by simp)
  | .ok _, .error _ => .isFalse (by simp)
  | .error _, .ok _ => .isFalse (by simp)

end BotKeeper
