-- What an operating system answers when it cannot do what it was asked.

namespace Testbed

/-- A refusal of the operating system, or a text that cannot be passed to it. -/
inductive OsError where
  | notPermitted
  | noSuchFile
  | noSuchProcess
  | noChild
  | permissionDenied
  | fileExists
  | notADirectory
  | isADirectory
  | nameTooLong
  | notUtf8
  | nulInArgument
  | nulInPath
  /-- Anything else, in the words of the system. -/
  | other (text : String)
deriving DecidableEq, Repr

namespace OsError

/-- The wording, with the number of the error where the system has one. -/
def message : OsError → String
  | notPermitted => "Operation not permitted (os error 1)"
  | noSuchFile => "No such file or directory (os error 2)"
  | noSuchProcess => "No such process (os error 3)"
  | noChild => "No child processes (os error 10)"
  | permissionDenied => "Permission denied (os error 13)"
  | fileExists => "File exists (os error 17)"
  | notADirectory => "Not a directory (os error 20)"
  | isADirectory => "Is a directory (os error 21)"
  | nameTooLong => "File name too long (os error 36)"
  | notUtf8 => "stream did not contain valid UTF-8"
  | nulInArgument => "nul byte found in provided data"
  | nulInPath => "file name contained an unexpected NUL byte"
  | other text => text

end OsError

end Testbed
