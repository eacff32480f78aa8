import BotKeeper.Keeper.Happening

/-! The runs of a keeper. After each step anything may come next: what operators
ask for, a move of some instance, what a process does by itself, or more time. A
run settles nothing by itself, so calls, reports and timers meet in every order. -/

namespace BotKeeper

namespace Keeper

/-- One thing that happens to a keeper or around it. -/
inductive Event where
  | add (config : InstanceConfig) (drawn : DrawnName)
  | start (id : AccountId)
  | stop (id : AccountId)
  | reboot (id : AccountId)
  | update (id : AccountId) (config : InstanceConfig) (drawn : DrawnName)
  | delete (id : AccountId)
  | stopAll
  | beginUpdate
  | endUpdate
  /-- An account makes a move that is open. -/
  | move (id : AccountId) (move : Move)
  | print (id : AccountId) (bytes : List UInt8)
  | printLate (id : AccountId) (bytes : List UInt8)
  | exit (id : AccountId) (code : Option Int32)
  /-- What the latest process has left behind lets go of its output. -/
  | closeOutput (id : AccountId)
  /-- A process will from now on behave in another way. -/
  | alter (id : AccountId) (pid : Nat) (conduct : Conduct)
  | advance (millis uptime : Nat)
  /-- What a launch would find has changed. -/
  | surround (host : Host) (files : FileTree)

/-- The command that an event brings to the instances it is for. -/
def Event.command? : Event → Option Command
  | start _ => some .start
  | stop _ => some .stop
  | reboot _ => some .reboot
  | update _ config drawn => some (.update (config.withDefaultName drawn))
  | delete _ => some .delete
  | stopAll => some .stop
  | _ => none

/-- The keeper after an event, if it can happen. -/
def step? (keeper : Keeper) : Event → Option Keeper
  | .add config drawn => some (keeper.add config drawn).1
  | .start id => some (keeper.call id .start).1
  | .stop id => some (keeper.call id .stop).1
  | .reboot id => some (keeper.call id .reboot).1
  | .update id config drawn => some (keeper.update id config drawn).1
  | .delete id => some (keeper.call id .delete).1
  | .stopAll => some keeper.stopAll.1
  | .beginUpdate => some keeper.beginUpdate.1
  | .endUpdate => keeper.endUpdate?
  | .move id move => keeper.move? id move
  | .print id bytes => keeper.print? id bytes
  | .printLate id bytes => keeper.printLate? id bytes
  | .exit id code => keeper.exit? id code
  | .closeOutput id => keeper.happen id (keeper.ledger id).bots.head? Bot.closeOutput
  | .alter id pid conduct =>
    keeper.happen id ((keeper.ledger id).bot? pid) fun bot => ({ bot with conduct }, [])
  | .advance millis uptime => some (keeper.advance millis uptime)
  | .surround host files => some { keeper with around := { keeper.around with host, files } }

def steps? (keeper : Keeper) : List Event → Option Keeper
  | [] => some keeper
  | event :: rest => (keeper.step? event).bind fun after => after.steps? rest

/-- From one keeper to another by events of some sort, one after the other. -/
inductive Run (allowed : Event → Prop) (start : Keeper) : Keeper → Prop where
  | refl : Run allowed start start
  | step {between after : Keeper} {event : Event} (run : Run allowed start between)
      (fits : allowed event) (happens : between.step? event = some after) : Run allowed start after

/-- A keeper that some run leads to, from one that keeps nothing and whose gate is open. -/
def Reachable (keeper : Keeper) : Prop :=
  ∃ around : Surroundings, around.gate = false ∧ Run (fun _ => True) { around } keeper

end Keeper

end BotKeeper
