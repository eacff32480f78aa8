import BotKeeper.Instance.Move

/-! The keeper of all instances. It hands each call to the instance that it is
for, and watches over what concerns all of them: which ids there are, and whether
the program that they share may be replaced. -/

namespace BotKeeper

structure Call where
  id : AccountId
  ticket : Ticket
  deriving DecidableEq, Repr

structure Keeper where
  around : Surroundings := {}
  /-- The accounts that have, or once had, an instance. -/
  accounts : OrderedMap AccountId Account := .empty
  /-- How many permits to replace the shared program are held. -/
  permits : Nat := 0

namespace Instance

def fresh (policy : RestartPolicy) (config : InstanceConfig) (ledger : Ledger) : Instance :=
  let machine : Machine := { id := config.accountId, policy }
  { toLedger := ledger, machine, config, snapshot := machine.snapshot config.name }

def take (command : Command) (state : Instance) : Instance :=
  { state with
    calls := state.calls + 1
    requests := state.requests ++ [⟨state.calls, command⟩] }

end Instance

namespace Keeper

def ledger (keeper : Keeper) (id : AccountId) : Ledger :=
  ((keeper.accounts.get? id).map Account.ledger).getD {}

def instance? (keeper : Keeper) (id : AccountId) : Option Instance :=
  (keeper.accounts.get? id).bind Account.instance?

def find (keeper : Keeper) (id : AccountId) : Except Error Instance :=
  match keeper.instance? id with
  | some state => .ok state
  | none => .error (.instanceNotFound id)

/-- What there is to be read of an instance. -/
def read (keeper : Keeper) (id : AccountId) (part : Instance → α) : Except Error α :=
  (keeper.find id).map part

def config (keeper : Keeper) (id : AccountId) : Except Error InstanceConfig :=
  keeper.read id (·.config)

def snapshot (keeper : Keeper) (id : AccountId) : Except Error Snapshot :=
  keeper.read id (·.snapshot)

/-- What those who watch an instance see at present. -/
def watch (keeper : Keeper) (id : AccountId) : Except Error Snapshot :=
  keeper.read id (·.snapshot)

def recentOutput (keeper : Keeper) (id : AccountId) : Except Error (List String) :=
  keeper.read id (·.history)

def put (keeper : Keeper) (id : AccountId) (account : Account) : Keeper :=
  { keeper with accounts := keeper.accounts.insert id account }

def ids (keeper : Keeper) : List AccountId :=
  keeper.accounts.entries.filterMap fun (id, account) => account.instance?.map fun _ => id

/-- What observers see of all instances, in the order of their ids. -/
def snapshots (keeper : Keeper) : List Snapshot :=
  keeper.accounts.values.filterMap fun account => account.instance?.map (·.snapshot)

/-- The ids of the instances that observers do not see stopped. -/
def activeIds (keeper : Keeper) : List AccountId :=
  (keeper.snapshots.filter fun snapshot => !snapshot.phase.isStopped).map (·.id)

def summary (keeper : Keeper) : String :=
  "Supervisor \x7b instances: [" ++ String.intercalate ", " (keeper.ids.map toString) ++ "] \x7d"

def add (keeper : Keeper) (config : InstanceConfig) (drawn : DrawnName) :
    Keeper × Except Error Unit :=
  match config.validate with
  | .error fault => (keeper, .error (.config fault.message))
  | .ok () =>
    let id := config.accountId
    match keeper.instance? id with
    | some _ => (keeper, .error (.instanceAlreadyExists id))
    | none =>
      let state := Instance.fresh keeper.around.settings.restartPolicy
        (config.withDefaultName drawn) (keeper.ledger id)
      (keeper.put id (.kept state), .ok ())

def call (keeper : Keeper) (id : AccountId) (command : Command) : Keeper × Except Error Call :=
  match keeper.find id with
  | .error error => (keeper, .error error)
  | .ok state => (keeper.put id (.kept (state.take command)), .ok ⟨id, state.calls⟩)

/-- Asks for another config, which has to be one for the same account. -/
def update (keeper : Keeper) (id : AccountId) (config : InstanceConfig) (drawn : DrawnName) :
    Keeper × Except Error Call :=
  if config.accountId ≠ id then
    (keeper, .error
      (.config s!"Config for account {config.accountId} cannot replace instance {id}"))
  else
    match config.validate with
    | .error fault => (keeper, .error (.config fault.message))
    | .ok () => keeper.call id (.update (config.withDefaultName drawn))

def result? (keeper : Keeper) (call : Call) : Option (Except Error Unit) :=
  ((keeper.ledger call.id).answers.find? (·.ticket == call.ticket)).map (·.result)

/-- Whether a phase is one that a stop of all instances asks to be left. -/
def isStoppable : Phase → Bool
  | .starting | .awaitingLogin | .running => true
  | .stopped | .stopping => false

def stopEach (keeper : Keeper) : List AccountId → Keeper × List Call
  | [] => (keeper, [])
  | id :: rest =>
    match keeper.call id .stop with
    | (keeper, .error _) => keeper.stopEach rest
    | (keeper, .ok call) =>
      let (keeper, calls) := keeper.stopEach rest
      (keeper, call :: calls)

/-- Stops of all instances that are neither stopped nor about to be. -/
def stopAll (keeper : Keeper) : Keeper × List Call :=
  keeper.stopEach ((keeper.snapshots.filter (isStoppable ·.phase)).map (·.id))

/-- The first failure, except where another stop or an exit was faster. -/
def firstFailure (results : List (Except Error Unit)) : Except Error Unit :=
  results.foldr
    (fun result rest =>
      match result with
      | .ok () => rest
      | .error error => if error.kind = .invalidTransition then rest else .error error)
    (.ok ())

/-- The result of a stop of all instances, once all of its calls are answered. -/
def stopAllResult? (keeper : Keeper) (calls : List Call) : Option (Except Error Unit) :=
  (calls.mapM keeper.result?).map firstFailure

/-- Whether the shared program might be replaced now: no instance uses it. -/
def checkUpdate (keeper : Keeper) : Except Error Unit :=
  match keeper.activeIds with
  | [] => .ok ()
  | ids => .error (.anyInstanceRunning ids)

/-- A permit to replace the shared program. It closes the gate. -/
def beginUpdate (keeper : Keeper) : Keeper × Except Error Unit :=
  if keeper.around.gate then (keeper, .error .updateInProgress)
  else
    match keeper.checkUpdate with
    | .error error => (keeper, .error error)
    | .ok () =>
      ({ keeper with
        around := { keeper.around with gate := true }
        permits := keeper.permits + 1 }, .ok ())

/-- A permit is given back, and the gate is open again. -/
def endUpdate? (keeper : Keeper) : Option Keeper :=
  match keeper.permits with
  | 0 => none
  | permits + 1 => some { keeper with around := { keeper.around with gate := false }, permits }

/-- The same keeper later. The two clocks need not go alike. -/
def advance (keeper : Keeper) (millis uptime : Nat) : Keeper :=
  { keeper with
    around := { keeper.around with
      now := keeper.around.now + millis
      uptime := keeper.around.uptime + uptime } }

def withFiles (keeper : Keeper) (files : FileTree) : Keeper :=
  { keeper with around := { keeper.around with files } }

def move? (keeper : Keeper) (id : AccountId) (move : Move) : Option Keeper :=
  ((keeper.instance? id).bind (·.move? keeper.around move)).map (keeper.put id)

def settle (keeper : Keeper) : Keeper :=
  { keeper with accounts := keeper.accounts.mapValues fun _ account => account.settle keeper.around }

end Keeper

end BotKeeper
