import BotKeeper.Text.Numeral

/-! How a bot behaves when it is ended. A bot of unknown behaviour may be any of
these; one that is made for rehearsals is told by its arguments. -/

namespace BotKeeper

/-- What a bot does when it is asked to end. -/
inductive TermResponse where
  | dies
  | ignores
  /-- It says something, if there is something to say, and exits on its own account. -/
  | exits (code : Int32) (words : List Char)
  deriving DecidableEq, Repr

/-- What becomes of a bot when it is killed. -/
inductive KillResponse where
  | dies
  /-- The system is not done with it yet: it dies some time later, if at all. -/
  | lasts
  /-- The keeper may not send it any signal. -/
  | refuses
  deriving DecidableEq, Repr

structure Conduct where
  onTerm : TermResponse := .dies
  onKill : KillResponse := .dies
  /-- Whether something that the bot has started keeps its output open for good. -/
  leaks : Bool := false
  deriving DecidableEq, Repr

/-- The code with which a process has exited: the lowest eight bits of what it gave. -/
def exitCode (given : Int) : Int32 :=
  .ofInt (given % 256)

namespace Conduct

def after? (opening text : List Char) : Option (List Char) :=
  if opening.isPrefixOf text then some (text.drop opening.length) else none

/-- The code and the words of an answer that is written with a colon between them. -/
def answer? (text : List Char) : Option TermResponse :=
  match text.span Text.isDigit with
  | ([], _) => none
  | (digits, ':' :: words) => some (.exits (exitCode (Text.numeral digits)) words)
  | _ => none

/-- The conduct changed as one argument says. Other arguments say nothing of it. -/
def told (conduct : Conduct) (argument : String) : Conduct :=
  if argument = "--leak" then { conduct with leaks := true }
  else if argument = "--ignore-term" then { conduct with onTerm := .ignores }
  else
    match (after? "--on-term=".toList argument.toList).bind answer? with
    | some response => { conduct with onTerm := response }
    | none => conduct

def ofArguments (arguments : List String) : Conduct :=
  arguments.foldl told {}

end Conduct

end BotKeeper
