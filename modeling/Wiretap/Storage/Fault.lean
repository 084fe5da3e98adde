/-!
# Faults of the host

What the operating system answers when it refuses to do something with a file or a socket, and
the wording of those answers.
-/

namespace Wiretap

/-- An answer of the operating system that is no success. -/
inductive Fault where
  | notFound
  | alreadyExists
  | notADirectory
  | isADirectory
  | directoryNotEmpty
  | invalidArgument
  | nameTooLong
  /-- A name holds a character that ends names. -/
  | nulInName
  /-- A file that should hold text does not. -/
  | notText
  | networkUnreachable
  | connectionRefused
deriving DecidableEq, Repr

/-- The wording of a fault, with the number by which the system knows it. -/
def Fault.message : Fault → String
  | notFound => "No such file or directory (os error 2)"
  | alreadyExists => "File exists (os error 17)"
  | notADirectory => "Not a directory (os error 20)"
  | isADirectory => "Is a directory (os error 21)"
  | invalidArgument => "Invalid argument (os error 22)"
  | nameTooLong => "File name too long (os error 36)"
  | directoryNotEmpty => "Directory not empty (os error 39)"
  | networkUnreachable => "Network is unreachable (os error 101)"
  | connectionRefused => "Connection refused (os error 111)"
  | nulInName => "file name contained an unexpected NUL byte"
  | notText => "stream did not contain valid UTF-8"

end Wiretap
