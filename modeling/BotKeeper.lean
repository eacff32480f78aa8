import BotKeeper.Bot
import BotKeeper.Bot.Conduct
import BotKeeper.Classification
import BotKeeper.Codec.Config
import BotKeeper.Codec.Feed
import BotKeeper.Codec.Lifecycle
import BotKeeper.Codec.Record
import BotKeeper.Codec.Settings
import BotKeeper.Config
import BotKeeper.Error
import BotKeeper.Feed
import BotKeeper.FilePath
import BotKeeper.FileTree
import BotKeeper.Instance.Basic
import BotKeeper.Instance.Command
import BotKeeper.Instance.Effects
import BotKeeper.Instance.Move
import BotKeeper.Instance.Termination
import BotKeeper.Instant
import BotKeeper.Interval
import BotKeeper.Keeper
import BotKeeper.Keeper.Happening
import BotKeeper.Keeper.Rehearsal
import BotKeeper.Keeper.Run
import BotKeeper.Launch
import BotKeeper.Lifecycle
import BotKeeper.Machine
import BotKeeper.Machine.Run
import BotKeeper.Marker
import BotKeeper.OrderedMap
import BotKeeper.Phase
import BotKeeper.Proofs.Announcements
import BotKeeper.Proofs.Answers
import BotKeeper.Proofs.BatchReading
import BotKeeper.Proofs.Bookkeeping
import BotKeeper.Proofs.Calls
import BotKeeper.Proofs.Channel
import BotKeeper.Proofs.Commands
import BotKeeper.Proofs.ConcurrentStarts
import BotKeeper.Proofs.Configs
import BotKeeper.Proofs.Consequences
import BotKeeper.Proofs.Custody
import BotKeeper.Proofs.DeclaredPaths
import BotKeeper.Proofs.Decoration
import BotKeeper.Proofs.Delivery
import BotKeeper.Proofs.Descent
import BotKeeper.Proofs.Down
import BotKeeper.Proofs.Effects
import BotKeeper.Proofs.EndErrors
import BotKeeper.Proofs.Escapes
import BotKeeper.Proofs.FailedLaunch
import BotKeeper.Proofs.Failures
import BotKeeper.Proofs.FileTrees
import BotKeeper.Proofs.FinalStop
import BotKeeper.Proofs.History
import BotKeeper.Proofs.Independence
import BotKeeper.Proofs.IntervalGrammar
import BotKeeper.Proofs.IntervalText
import BotKeeper.Proofs.LaunchTexts
import BotKeeper.Proofs.Layouts
import BotKeeper.Proofs.LikeKeepers
import BotKeeper.Proofs.LikeMoves
import BotKeeper.Proofs.Likeness
import BotKeeper.Proofs.LineEnds
import BotKeeper.Proofs.Lineage
import BotKeeper.Proofs.LoginCodes
import BotKeeper.Proofs.Messages
import BotKeeper.Proofs.Moves
import BotKeeper.Proofs.NamedErrors
import BotKeeper.Proofs.Notices
import BotKeeper.Proofs.Origins
import BotKeeper.Proofs.Output
import BotKeeper.Proofs.PathTexts
import BotKeeper.Proofs.Phrases
import BotKeeper.Proofs.Pipe
import BotKeeper.Proofs.Reaction
import BotKeeper.Proofs.Reboot
import BotKeeper.Proofs.RebootCourse
import BotKeeper.Proofs.Recast
import BotKeeper.Proofs.Recognition
import BotKeeper.Proofs.Registry
import BotKeeper.Proofs.Rejections
import BotKeeper.Proofs.Rendering
import BotKeeper.Proofs.Replacement
import BotKeeper.Proofs.Replay
import BotKeeper.Proofs.Respawn
import BotKeeper.Proofs.RestartDelays
import BotKeeper.Proofs.Restarts
import BotKeeper.Proofs.RoundTrip
import BotKeeper.Proofs.Runs
import BotKeeper.Proofs.Safety
import BotKeeper.Proofs.Schedule
import BotKeeper.Proofs.ScheduledRestart
import BotKeeper.Proofs.ScriptLines
import BotKeeper.Proofs.ScriptedLaunch
import BotKeeper.Proofs.Session
import BotKeeper.Proofs.ShellReading
import BotKeeper.Proofs.StartQueue
import BotKeeper.Proofs.StopAll
import BotKeeper.Proofs.Stopped
import BotKeeper.Proofs.Superseded
import BotKeeper.Proofs.Telling
import BotKeeper.Proofs.TextBytes
import BotKeeper.Proofs.Turns
import BotKeeper.Proofs.Unmoved
import BotKeeper.Proofs.Unwinding
import BotKeeper.Proofs.UpdateCheck
import BotKeeper.Proofs.UpdateGate
import BotKeeper.Proofs.WrittenScripts
import BotKeeper.Script.Declared
import BotKeeper.Script.Quoting
import BotKeeper.Script.Render
import BotKeeper.Script.Target
import BotKeeper.Script.Write
import BotKeeper.Settings
import BotKeeper.SettingsFile
import BotKeeper.SystemError
import BotKeeper.SystemPath
import BotKeeper.Text.Ansi
import BotKeeper.Text.Blank
import BotKeeper.Text.Folded
import BotKeeper.Text.Hidden
import BotKeeper.Text.Lines
import BotKeeper.Text.Numeral
import BotKeeper.Text.Quoted
import BotKeeper.Text.Split
import BotKeeper.Text.Utf8
import BotKeeper.Toml.Document
import BotKeeper.Toml.Scalar
import BotKeeper.Toml.Scan
import BotKeeper.Toml.Table
import BotKeeper.Toml.Text
import BotKeeper.Validation
import BotKeeper.Value
import BotKeeper.Proofs.IntervalGrammar
