/-!
# Errors of the operating system

The failures that the operating system answers a request with, as far as files and
processes are concerned.

Main results:

- Definition `SystemError.message`: the text with the number of the error.
-/

namespace ProxyControl

/-- A failure of a request to the operating system. -/
inductive SystemError where
  | notPermitted
  | noEntry
  | tryAgain
  | accessDenied
  | fileExists
  | notDirectory
  | nameTooLong
  /-- A NUL byte stands in a word that starts a program. -/
  | nulInCommand
  /-- A NUL byte stands in the name of a file. -/
  | nulInFileName
  deriving DecidableEq, Repr

namespace SystemError

/-- What a failure is. -/
def description : SystemError → String
  | notPermitted => "Operation not permitted"
  | noEntry => "No such file or directory"
  | tryAgain => "Resource temporarily unavailable"
  | accessDenied => "Permission denied"
  | fileExists => "File exists"
  | notDirectory => "Not a directory"
  | nameTooLong => "File name too long"
  | nulInCommand => "nul byte found in provided data"
  | nulInFileName => "file name contained an unexpected NUL byte"

/-- The number of a failure that the system itself reports. -/
def code? : SystemError → Option Nat
  | notPermitted => some 1
  | noEntry => some 2
  | tryAgain => some 11
  | accessDenied => some 13
  | fileExists => some 17
  | notDirectory => some 20
  | nameTooLong => some 36
  | nulInCommand => none
  | nulInFileName => none

/-- The text of a failure, with its number if it has one. -/
def message (e : SystemError) : String :=
  match e.code? with
  | some n => e.description ++ " (os error " ++ toString n ++ ")"
  | none => e.description

end SystemError
end ProxyControl
