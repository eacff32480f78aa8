import BotKeeper.Feed
import BotKeeper.Launch
import BotKeeper.Machine
import BotKeeper.Bot

/-! One registered instance with everything that belongs to it: what is known of
its account, the calls and reports that wait for it, and what it has published.
It does one thing at a time, and while it waits for the end of a process it does
nothing else. -/

namespace BotKeeper

/-- The number of a call among those on its account. -/
abbrev Ticket := Nat

inductive Command where
  | start
  | stop
  | reboot
  | update (config : InstanceConfig)
  | delete
  deriving DecidableEq

/-- The config that a command brings. -/
def Command.config? : Command → Option InstanceConfig
  | update config => some config
  | _ => none

/-- A call that has not been looked at yet. -/
structure Request where
  ticket : Ticket
  command : Command
  deriving DecidableEq

/-- A report with the generation of the process that it is about. -/
structure Message where
  generation : Nat
  report : Report
  deriving DecidableEq, Repr

structure Answer where
  ticket : Ticket
  result : Except Error Unit
  deriving DecidableEq

/-- A start that follows as soon as the instance has stopped. -/
inductive PendingStart where
  | requested (ticket : Ticket)
  | scheduled
  deriving DecidableEq, Repr

/-- How far the end of a process has been brought on. -/
inductive Pressure where
  | asked
  | forced
  deriving DecidableEq, Repr

/-- For what the effects of a step are carried out. -/
inductive Purpose where
  | stop (ticket : Ticket)
  | reboot (ticket : Ticket)
  | scheduledRestart
  /-- An event of the bot, by which the instance has stopped or not. -/
  | event (stopped : Bool)
  deriving DecidableEq, Repr

/-- The wait for the end of the process, and what is to be done after it. -/
structure Wait where
  pressure : Pressure
  deadline : Nat
  effects : List Effect
  purpose : Purpose
  deriving DecidableEq, Repr

/-- What an instance is in the middle of. It looks at no call and at no report meanwhile. -/
inductive Business where
  | wait (wait : Wait)
  /-- It has just stopped, and what follows from that is not done yet. -/
  | halted
  deriving DecidableEq, Repr

/-- What remains of an account when its instance is deleted. -/
structure Ledger where
  /-- All processes that the account has had, the latest one first. -/
  bots : List Bot := []
  feed : List FeedEvent := []
  calls : Nat := 0
  answers : List Answer := []
  deriving DecidableEq

structure Instance extends Ledger where
  machine : Machine
  config : InstanceConfig
  /-- What observers see. -/
  snapshot : Snapshot
  /-- The last lines of output, the oldest one first. -/
  history : List String := []
  requests : List Request := []
  messages : List Message := []
  busy : Option Business := none
  /-- Stops that are answered as soon as the instance has stopped. -/
  stopWaiters : List Ticket := []
  pendingStart : Option PendingStart := none
  restartAt : Option Nat := none
  /-- How many launches were tried. -/
  generation : Nat := 0
  /-- The process that the instance holds until its exit is reported. -/
  handle : Option Nat := none
  deriving DecidableEq

/-- What an instance meets and does not change. Times are in milliseconds. -/
structure Surroundings where
  settings : KeeperSettings := {}
  host : Host := {}
  files : FileTree := {}
  /-- Whether starts are refused, because the shared program is being replaced. -/
  gate : Bool := false
  /-- The clock of all timers. -/
  now : Nat := 0
  /-- The clock of the restart window. -/
  uptime : Nat := 0
  /-- The draw for the schedule of each process of an account. -/
  jitter : AccountId → Nat → Nat := fun _ _ => 0

def Surroundings.moment (around : Surroundings) : Instant where
  seconds := around.now / 1000
  nanos := around.now % 1000 * 1000000

/-- What is published of a step: its phases, if they differ. -/
def Outcome.published (outcome : Outcome) (id : AccountId) : List FeedEvent :=
  if outcome.changed then [.phaseChanged id outcome.before outcome.after] else []

namespace Ledger

def bot? (ledger : Ledger) (pid : Nat) : Option Bot :=
  ledger.bots.find? fun bot => bot.pid == pid

def lastPid (ledger : Ledger) : Nat :=
  ledger.bots.length

def replace (ledger : Ledger) (bot : Bot) : Ledger :=
  { ledger with
    bots := ledger.bots.map fun other => if other.pid = bot.pid then bot else other }

def answered (ledger : Ledger) (ticket : Ticket) (result : Except Error Unit) : Ledger :=
  { ledger with answers := ledger.answers ++ [⟨ticket, result⟩] }

end Ledger

namespace Instance

def id (state : Instance) : AccountId :=
  state.machine.id

def publish (state : Instance) (event : FeedEvent) : Instance :=
  { state with feed := state.feed ++ [event] }

def publishNotice (state : Instance) (notice : Notice) : Instance :=
  state.publish (.notice state.id notice)

def publishSnapshot (state : Instance) : Instance :=
  { state with snapshot := state.machine.snapshot state.config.name }

def publishTransition (state : Instance) (outcome : Outcome) : Instance :=
  { state with feed := state.feed ++ outcome.published state.id }.publishSnapshot

def answer (state : Instance) (ticket : Ticket) (result : Except Error Unit) : Instance :=
  { state with toLedger := state.toLedger.answered ticket result }

def releaseStops (state : Instance) : Instance :=
  { state with
    answers := state.answers ++ state.stopWaiters.map (⟨·, .ok ()⟩)
    stopWaiters := [] }

/-- A line of output is kept, and the oldest lines give way to it. -/
def remember (around : Surroundings) (state : Instance) (line : String) : Instance :=
  let capacity := around.settings.outputHistoryLines.toNat
  let lines := state.history ++ [line]
  { state with history := lines.drop (lines.length - capacity) }

def observe (state : Instance) (change : Bot × List Report) : Instance :=
  { state with
    toLedger := state.toLedger.replace change.1
    messages := state.messages ++ change.2.map (⟨change.1.generation, ·⟩) }

end Instance

end BotKeeper
