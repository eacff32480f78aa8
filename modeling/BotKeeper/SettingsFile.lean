import BotKeeper.Codec.Settings
import BotKeeper.Error
import BotKeeper.SystemError
import BotKeeper.Text.Quoted
import BotKeeper.Text.Utf8
import BotKeeper.Toml.Document

/-! The settings of the keeper as a file in TOML. Where there is no file, the
defaults hold. -/

namespace BotKeeper

inductive SettingsFault where
  /-- The text is no document, or a field of it does not have its type. -/
  | malformed
  | zeroCapacity
  | unreadable (path : String) (reason : SystemError)
  deriving DecidableEq, Repr

namespace SettingsFault

/-- What is said about a fault. A malformed text is only reported as such. -/
def message? : SettingsFault → Option String
  | malformed => none
  | zeroCapacity => some "event_capacity must be greater than zero"
  | unreadable path reason => some ("Failed to read " ++ Text.quoted path ++ ": " ++ reason.text)

def kind (_ : SettingsFault) : ErrorKind :=
  .config

end SettingsFault

inductive SettingsSource where
  | absent
  | dir
  | file (bytes : List UInt8)
  deriving DecidableEq, Repr

namespace KeeperSettings

def ofToml (text : String) : Except SettingsFault KeeperSettings :=
  match (Toml.document? text).bind (decode? .ignored) with
  | none => .error .malformed
  | some settings => if settings.eventCapacity = 0 then .error .zeroCapacity else .ok settings

/-- The settings in a file. Every mark of the encoding in front of the text is skipped. -/
def load (path : String) : SettingsSource → Except SettingsFault KeeperSettings
  | .absent => .ok {}
  | .dir => .error (.unreadable path .isDirectory)
  | .file bytes =>
    match Text.Utf8.decode? bytes with
    | none => .error (.unreadable path .notText)
    | some text => ofToml (.ofList (text.dropWhile (· == Toml.byteOrderMark)))

end KeeperSettings

end BotKeeper
