import Wiretap.CommandLine
import Wiretap.Logging
import Wiretap.Receiver.Server

/-!
# The program

From the arguments of the program to a running server, or to the reason why there is none, and
what a running server is asked to do as time goes by.

## Main definitions

* `Session` - a log and the server that was asked to start.
* `Launch` - how the program ends at once, or the session that it opens.
* `Program.launch` - what the program does with its arguments.
* `Program.due` - what is due between two times.

## Design notes

Files and sockets are inputs, so the whole program is a function up to the point where datagrams
arrive.  Idle flows and counters are looked after at whole multiples of their intervals, counted
from the start.
-/

namespace Wiretap

/-- A log and the server that was asked to start. -/
structure Session where
  target : LogTarget
  effects : Effects
  /-- Where the server listens, or why it does not. -/
  result : Except ServerError SocketAddr

/-- How the program ends at once, or the session that it opens. -/
inductive Launch where
  /-- The program has printed what it was asked for. -/
  | printed (lines : List String)
  /-- The arguments make no sense. -/
  | misuse
  /-- The program gives up before there is a log. -/
  | failed (reason : String)
  | opened (session : Session)

namespace Launch

/-- Why the program gives up, if it does. -/
def reason? : Launch → Option String
  | failed reason => some reason
  | opened session =>
    match session.result with
    | .error e => some e.message
    | .ok _ => none
  | printed _ | misuse => none

/-- The exit code of a program that does not go on. -/
def exitCode (l : Launch) : Nat :=
  match l with
  | misuse => 2
  | _ => if l.reason?.isSome then 1 else 0

/-- The exit code is zero unless the program gives up or was misused. -/
theorem exitCode_eq_zero_iff (l : Launch) : l.exitCode = 0 ↔ l.reason? = none ∧ l ≠ misuse := by
  cases l with
  | opened s => cases h : s.result <;> simp [exitCode, reason?, h]
  | _ => simp [exitCode, reason?]

end Launch

namespace Program

/-- Asks a server to start, under a log that was opened before. -/
def openSession (host : Host) (disk : Disk) (target : LogTarget) (config : Config)
    (first : Notice) : Session :=
  let (effects, result) := Server.start host disk { config }
  let last := match result with
    | .error e => [Notice.startFailed e.message]
    | .ok _ => []
  { target, result, effects := { effects with notices := first :: effects.notices ++ last } }

/-- Runs a server with the settings of a file. -/
def serve (host : Host) (disk : Disk) (configFile : String) : Launch :=
  match Config.loadFile disk (Path.ofString configFile) with
  | .error _ => .failed s!"failed to load config {configFile}"
  | .ok config =>
    match LogTarget.open? disk config.logging with
    | none => .failed "failed to initialize logger"
    | some (disk, target) =>
      .opened (openSession host disk target config
        (.starting CommandLine.programVersion configFile))

/-- What the program does with its arguments. -/
def launch (host : Host) (disk : Disk) (args : List String) : Launch :=
  match CommandLine.read? args with
  | none => .misuse
  | some .help => .printed CommandLine.helpLines
  | some .version => .printed [CommandLine.programVersion]
  | some (.serve configFile) => serve host disk configFile

/-! ### While the server is running -/

/-- The time between two looks for idle flows. -/
def sweepInterval : Duration := .ofSecs 10

/-- The time between two readings of all counters. -/
def statsInterval : Duration := .ofSecs 30

/-- Whether a multiple of an interval lies behind `past` and not behind `now`. -/
def elapsed (interval past now : Duration) : Bool :=
  past.nanos / interval.nanos < now.nanos / interval.nanos

/-- What is due between two times after the start; `clock` is the time of day at the end. -/
def due (past now clock : Duration) : List Server.Event :=
  (if elapsed sweepInterval past now then [.sweep clock] else []) ++
  (if elapsed statsInterval past now then [.readStats] else [])

/-- Nothing is due when no time goes by. -/
@[simp] theorem due_self (now clock : Duration) : due now now clock = [] := by
  simp [due, elapsed]

/-- The server at the end of a session: it is asked to stop. -/
def close (host : Host) (disk : Disk) (s : Server) : Effects :=
  let effects := s.stop host disk
  { effects with notices := .terminating :: effects.notices }

end Program

end Wiretap
