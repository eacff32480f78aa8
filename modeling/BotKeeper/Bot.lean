import BotKeeper.Classification
import BotKeeper.Config
import BotKeeper.Bot.Conduct
import BotKeeper.Text.Lines
import BotKeeper.Text.Utf8

/-! One bot as the system runs it. Both of its output streams end in one pipe,
which is read line by line. The exit is reported after all lines, and at the
latest a fixed time after the death; nothing is reported after it. -/

namespace BotKeeper

inductive Report where
  | line (text : String)
  | exited (code : Option Int32)
  deriving DecidableEq, Repr

inductive Vitality where
  | alive
  /-- Dead, with the pipe still open: at the given time it is given up. -/
  | lingering (code : Option Int32) (deadline : Nat)
  /-- Dead, and the exit has been reported. -/
  | gone
  deriving DecidableEq, Repr

structure Bot where
  /-- The number of the process among those of its account. -/
  pid : Nat
  /-- The number of the launch among those of its instance. -/
  generation : Nat
  config : InstanceConfig
  conduct : Conduct
  vitality : Vitality := .alive
  /-- The bytes of a line that has not ended yet. -/
  unfinished : List UInt8 := []
  deriving DecidableEq

namespace Bot

/-- How long a dead process may keep the pipe open, in milliseconds. -/
def drainMillis : Nat := 2000

def lineFeed : UInt8 := 10

/-- The text of a line: without its end, and without escape sequences. -/
def lineText (bytes : List UInt8) : String :=
  .ofList (Ansi.strip (Text.trimLineEnd (Text.Utf8.decodeLossy bytes)))

def endsLine (piece : List UInt8) : Bool :=
  piece.getLast? == some lineFeed

def isAlive (bot : Bot) : Bool :=
  bot.vitality == .alive

def isGone (bot : Bot) : Bool :=
  bot.vitality == .gone

def deadline? (bot : Bot) : Option Nat :=
  match bot.vitality with
  | .lingering _ deadline => some deadline
  | _ => none

/-- Bytes arrive in the pipe. Once it is given up they are lost. -/
def print (bot : Bot) (bytes : List UInt8) : Bot × List Report :=
  if bot.isGone then (bot, [])
  else
    let pieces := Text.cutAfter (· == lineFeed) (bot.unfinished ++ bytes)
    let (finished, rest) := pieces.partition endsLine
    ({ bot with unfinished := rest.flatten }, finished.map fun piece => .line (lineText piece))

/-- The last line, if the pipe ends in the middle of it. -/
def lastLine (bot : Bot) : List Report :=
  if bot.unfinished.isEmpty then [] else [.line (lineText bot.unfinished)]

/-- The process dies. Unless something else holds the pipe, all is reported at once. -/
def die (bot : Bot) (code : Option Int32) (now : Nat) : Bot × List Report :=
  if bot.conduct.leaks then
    ({ bot with vitality := .lingering code (now + drainMillis) }, [])
  else
    ({ bot with vitality := .gone, unfinished := [] }, bot.lastLine ++ [.exited code])

/-- The pipe is given up, and with it a line that has not ended. -/
def giveUp (bot : Bot) : Bot × List Report :=
  match bot.vitality with
  | .lingering code _ => ({ bot with vitality := .gone, unfinished := [] }, [.exited code])
  | _ => (bot, [])

/-- What held the pipe of a dead process lets go of it, and all is reported. -/
def closeOutput (bot : Bot) : Bot × List Report :=
  match bot.vitality with
  | .lingering code _ =>
    ({ bot with vitality := .gone, unfinished := [] }, bot.lastLine ++ [.exited code])
  | _ => (bot, [])

def exit (bot : Bot) (code : Option Int32) (now : Nat) : Bot × List Report :=
  if bot.isAlive then bot.die code now else (bot, [])

/-- Some words as a line of their own, if there are any. -/
def lineBytes (words : List Char) : List UInt8 :=
  if words.isEmpty then [] else (String.ofList (words ++ ['\n'])).toUTF8.toList

/-- A living process is asked to end. -/
def askToEnd (bot : Bot) (now : Nat) : Bot × List Report :=
  match bot.conduct.onTerm with
  | .dies => bot.die none now
  | .ignores => (bot, [])
  | .exits code words =>
    let (bot, said) := bot.print (lineBytes words)
    let (bot, reports) := bot.die (some code) now
    (bot, said ++ reports)

theorem askToEnd_exits {bot : Bot} {code : Int32} {words : List Char}
    (exits : bot.conduct.onTerm = .exits code words) (now : Nat) :
    bot.askToEnd now =
      (((bot.print (lineBytes words)).1.die (some code) now).1,
        (bot.print (lineBytes words)).2 ++ ((bot.print (lineBytes words)).1.die (some code) now).2) := by
  simp only [askToEnd, exits]

end Bot

end BotKeeper
