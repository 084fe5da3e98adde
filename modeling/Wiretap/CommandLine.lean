/-!
# The command line

What the program is asked to do by its arguments.

```text
-f, --config-file <CONFIG_FILE>    the file with the settings
-h, --help                         print help
-v, --version                      print the version
```

## Main definitions

* `Request` - the things that the program can be asked to do.
* `CommandLine.read?` - what arguments ask for, if they make sense.

## Design notes

Options of one letter may share a hyphen, and the value of an option may be attached to it.  A
value in an argument of its own does not begin with a hyphen, unless it is a lone one.  Help is
given as soon as it is asked for; whether an option lacks its value or is given twice is looked
at when all arguments have been read.
-/

namespace Wiretap

/-- What the program is asked to do. -/
inductive Request where
  | help
  | version
  /-- Run a server with the settings of a file. -/
  | serve (configFile : String)
deriving DecidableEq, Repr

namespace CommandLine

/-- The name of the program. -/
def programName : String := "tzsp-server"

/-- The name of the program with its version. -/
def programVersion : String := programName ++ " 0.1.0"

/-- The file with the settings, where no other one is named. -/
def defaultConfigFile : String := "config.yaml"

/-- The lines of help. -/
def helpLines : List String :=
  [programName ++ " ", "", "USAGE:", "    " ++ programName ++ " [OPTIONS]", "", "OPTIONS:",
   "    -f, --config-file <CONFIG_FILE>    Specify config file location " ++
     "[default: " ++ defaultConfigFile ++ "]",
   "    -h, --help                         Print help information",
   "    -v, --version                      Display the version"]

/-- What arguments have said so far. -/
structure Seen where
  /-- The files named, the last one first. -/
  configFiles : List String := []
  version : Bool := false
  /-- Whether an option lacks its value. -/
  incomplete : Bool := false
deriving Repr

namespace Seen

/-- With a file named. -/
def addFile (s : Seen) (name : List Char) : Seen :=
  { s with configFiles := String.ofList name :: s.configFiles }

/-- What all arguments together ask for. -/
def request? (s : Seen) : Option Request :=
  match s.incomplete, s.configFiles, s.version with
  | false, [], false => some (.serve defaultConfigFile)
  | false, [file], false => some (.serve file)
  | false, [], true | false, [_], true => some .version
  | _, _, _ => none

end Seen

/-- What one argument adds. -/
inductive Step where
  | seen (s : Seen)
  /-- The next argument is the name of a file. -/
  | waiting (s : Seen)
  | help
  | misuse

/-- An argument with two hyphens, without them. -/
def readLong (s : Seen) (arg : List Char) : Step :=
  let name := String.ofList (arg.takeWhile (· ≠ '='))
  match name, arg.dropWhile (· ≠ '=') with
  | "help", [] => .help
  | "version", [] => .seen { s with version := true }
  | "config-file", [] => .waiting s
  | "config-file", _ :: value => .seen (s.addFile value)
  | _, _ => .misuse

/-- An argument with one hyphen, without it. -/
def readShort (s : Seen) : List Char → Step
  | [] => .seen s
  | 'h' :: _ => .help
  | 'v' :: more => readShort { s with version := true } more
  | ['f'] => .waiting s
  | 'f' :: '=' :: value => .seen (s.addFile value)
  | 'f' :: value => .seen (s.addFile value)
  | _ => .misuse

/-- An argument. -/
def readOption (s : Seen) : List Char → Step
  | '-' :: '-' :: name => readLong s name
  | '-' :: c :: more => readShort s (c :: more)
  | _ => .misuse

/-- Whether an argument is no value. -/
def isOption : List Char → Bool
  | '-' :: _ :: _ => true
  | _ => false

/-- What the remaining arguments ask for; the first of them may be a value that is waited for. -/
def readFrom? (s : Seen) (waiting : Bool) : List (List Char) → Option Request
  | [] => { s with incomplete := s.incomplete || waiting }.request?
  | arg :: rest =>
    if waiting && !isOption arg then readFrom? (s.addFile arg) false rest
    else
      let s := { s with incomplete := s.incomplete || waiting }
      if arg = ['-', '-'] then if rest.isEmpty then s.request? else none
      else
        match readOption s arg with
        | .seen s => readFrom? s false rest
        | .waiting s => readFrom? s true rest
        | .help => some .help
        | .misuse => none

/-- What arguments ask for. -/
def read? (args : List String) : Option Request := readFrom? {} false (args.map String.toList)

example : read? [] = some (.serve "config.yaml") := by decide +kernel

example : read? ["-vf", "x"] = some .version := by decide +kernel

end CommandLine

end Wiretap
