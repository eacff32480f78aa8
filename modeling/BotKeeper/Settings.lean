/-! The settings of the keeper itself. -/

namespace BotKeeper

/-- How many quick-login restarts are allowed inside a sliding window. -/
structure RestartPolicy where
  maxRestarts : UInt32 := 5
  windowSecs : UInt64 := 300
  deriving DecidableEq, Repr

structure KeeperSettings where
  /-- How long a bot may take to end after it was asked to. -/
  gracefulTimeoutSecs : UInt64 := 10
  eventCapacity : UInt64 := 256
  /-- How many lines of output are kept for each instance. -/
  outputHistoryLines : UInt64 := 500
  restartPolicy : RestartPolicy := {}
  deriving DecidableEq, Repr

end BotKeeper
