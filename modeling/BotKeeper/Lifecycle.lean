/-! What a bot reports about itself, and what the operator is told about it. -/

namespace BotKeeper

/-- The number by which an account, and so its instance, is known. -/
abbrev AccountId := UInt64

/-- Something a bot printed that matters to its keeper, or its exit. A bot that
was ended by a signal has no exit code. -/
inductive LifecycleEvent where
  | qrChallenge (payload : String)
  | quickLoginError (message : String)
  | loginSuccess (account : AccountId)
  | accountOffline
  | processExited (code : Option Int32)
  deriving DecidableEq, Repr

/-- A message for the operator. None of them asks for an action. -/
inductive Notice where
  | autoRestarting (attempt : UInt32) (reason : String)
  | restartLimitReached (restarts : UInt32)
  | startFailed (code : Option Int32)
  | unexpectedExit (code : Option Int32)
  | loginSucceeded (account : AccountId)
  | accountOffline
  | scheduledRestart
  deriving DecidableEq, Repr

end BotKeeper
