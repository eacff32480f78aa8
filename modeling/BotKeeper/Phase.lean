/-! The five phases of an instance, from the moment it is registered. -/

namespace BotKeeper

inductive Phase where
  | stopped
  | starting
  | awaitingLogin
  | running
  | stopping
  deriving DecidableEq, Repr, Inhabited

namespace Phase

def name : Phase → String
  | stopped => "stopped"
  | starting => "starting"
  | awaitingLogin => "awaiting_login"
  | running => "running"
  | stopping => "stopping"

def all : List Phase :=
  [stopped, starting, awaitingLogin, running, stopping]

def isStopped (phase : Phase) : Bool :=
  phase == stopped

end Phase

end BotKeeper
