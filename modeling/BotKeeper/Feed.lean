import BotKeeper.Lifecycle
import BotKeeper.Phase

/-! What an instance publishes for everyone who watches. -/

namespace BotKeeper

inductive FeedEvent where
  | phaseChanged (id : AccountId) (before after : Phase)
  | lifecycle (id : AccountId) (event : LifecycleEvent)
  | output (id : AccountId) (line : String)
  | notice (id : AccountId) (notice : Notice)
  deriving DecidableEq, Repr

def FeedEvent.instanceId : FeedEvent → AccountId
  | phaseChanged id _ _ => id
  | lifecycle id _ => id
  | output id _ => id
  | notice id _ => id

end BotKeeper
