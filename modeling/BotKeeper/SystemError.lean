/-! The errors of the operating system that a launch or a write can meet, and the
texts under which they are reported. -/

namespace BotKeeper

inductive SystemError where
  | noEntry
  | permissionDenied
  | fileExists
  | notDirectory
  | isDirectory
  | invalidArgument
  | nameTooLong
  | directoryNotEmpty
  /-- A path that holds the character which ends a text for the system. -/
  | nulInPath
  /-- A program, an argument or a variable that holds it. -/
  | nulInData
  /-- A file that is no UTF-8 text. -/
  | notText
  deriving DecidableEq, Repr

def SystemError.text : SystemError → String
  | noEntry => "No such file or directory (os error 2)"
  | permissionDenied => "Permission denied (os error 13)"
  | fileExists => "File exists (os error 17)"
  | notDirectory => "Not a directory (os error 20)"
  | isDirectory => "Is a directory (os error 21)"
  | invalidArgument => "Invalid argument (os error 22)"
  | nameTooLong => "File name too long (os error 36)"
  | directoryNotEmpty => "Directory not empty (os error 39)"
  | nulInPath => "file name contained an unexpected NUL byte"
  | nulInData => "nul byte found in provided data"
  | notText => "stream did not contain valid UTF-8"

end BotKeeper
