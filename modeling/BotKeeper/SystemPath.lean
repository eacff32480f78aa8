import BotKeeper.Config
import BotKeeper.Text.Utf8

/-! Paths as the system has them. They are bytes, of which not all are a text. -/

namespace BotKeeper

structure SystemPath where
  bytes : List UInt8
  deriving DecidableEq, Repr

namespace SystemPath

def ofText (text : String) : SystemPath :=
  ⟨text.toList.flatMap String.utf8EncodeChar⟩

/-- The path as a text, if it is one. -/
def text? (path : SystemPath) : Option String :=
  (Text.Utf8.decode? path.bytes).map .ofList

/-- What is shown of a path, be it a text or not. -/
def shown (path : SystemPath) : String :=
  .ofList (Text.Utf8.decodeLossy path.bytes)

end SystemPath

namespace InstanceConfig

/-- The config as the system has it. -/
def onSystem (config : InstanceConfig) : InstanceConfig SystemPath :=
  { config with
    executable := .ofText config.executable
    workingDir := .ofText config.workingDir }

instance : Coe InstanceConfig (InstanceConfig SystemPath) :=
  ⟨onSystem⟩

@[simp] theorem onSystem_launchEnv (config : InstanceConfig) :
    config.onSystem.launchEnv = config.launchEnv := rfl

end InstanceConfig

end BotKeeper
