/-
  ReviewRota — running commands.

  A command line ends with an exit status: 0 for success, 1 for a refusal or any
  other failure, 2 where it is no command line.  The settings are loaded before
  the command itself is read, so settings that cannot be loaded end even a
  command line that is wrong behind the name of its command.

  * `World` is what surrounds a command line: the environment, the files and the
    console;
  * `Ending` is how it ends: the status, what was printed, the failure that was
    not caught, where the log goes, and where the web application listens;
  * `perform` does a command with loaded settings, and `run` a whole command
    line.
-/
import ReviewRota.Command.Display
import ReviewRota.Http.Application
import ReviewRota.Log.Sink
import ReviewRota.Store.Schema

namespace ReviewRota.Command

open Console

/-- What surrounds a command line: the variables, the files that exist, the files
    that are looked for where none is asked for, and how the console reads tags. -/
structure World where
  environment : Settings.Environment := []
  files : Settings.Files := []
  usual : List String := []
  tagging : Tagging := .usual
  deriving Inhabited

/-- Where the web application listens, and the level of the log around it. -/
structure Listener where
  host : String
  port : Int
  level : Log.Level
  deriving DecidableEq, Repr

/-- How a command line ends. -/
structure Ending where
  exit : Nat
  printed : Option Printed := none
  failure : Option Failure := none
  sink : Option Log.Sink := none
  listener : Option Listener := none
  deriving Repr, Inhabited

namespace Ending

/-- The blocks printed; a tag among them that cannot have its effect makes the status 1. -/
def showing (k : Tagging) (exit : Nat) (blocks : List Block) : Ending :=
  let p := print k blocks
  { exit := if p.fault.isSome then 1 else exit, printed := some p }

/-- Nothing printed, and a failure that was not caught. -/
def failed (f : Failure) : Ending := { exit := 1, printed := some {}, failure := some f }

/-- The JSON lines of the log on standard output. -/
def logged (e : Ending) (entries : List Log.Entry) : List Fields :=
  match e.sink with
  | some s => s.printed entries
  | none => []

end Ending

/-- The settings with which a command line works: details in the log if it asks
    for them. -/
def settings (w : World) (i : Invocation) : Except Settings.LoadFailure Settings := do
  let s ← Settings.load w.environment w.files w.usual i.config
  return if i.verbose then { s with logging := { s.logging with level := .debug } } else s

/-- A command that makes a request to the service, after the given blocks. -/
def performRequest (k : Tagging) (opening : List Block) (c : Command) (r : Request Argument) :
    Op Ending :=
  tryCatch (do
      let a ← Service.perform r
      return .showing k 0 (opening ++ c.display a))
    fun
      | .refused r => return .showing k 1 (opening ++ [refusalBlock r])
      | f => return { Ending.showing k 1 opening with failure := some f }

/-- The web application announced and set up: an empty host and port 0 stand for
    those of the settings. -/
def performServe (k : Tagging) (opening : List Block) (s : Settings) (host : Option String)
    (port : Option Int) : Op Ending := do
  let host := (host.filter (· ≠ "")).getD s.web.host
  let port := (port.filter (· ≠ 0)).getD s.web.port
  let ending := Ending.showing k 0 (opening ++ serveBlocks host port)
  if ending.exit = 0 then
    Http.setUp s.web.corsOrigins
    return { ending with listener := some ⟨host, port, s.logging.level⟩ }
  else return ending

/-- The tables created. -/
def performTables (k : Tagging) (opening : List Block) : Op Ending := do
  Op.report (.schemaCreated (Store.schema.map Store.Table.name))
  return .showing k 0 (opening ++ [tablesBlock])

/-- A command, after the given blocks. -/
def perform (k : Tagging) (opening : List Block) (s : Settings) (c : Command) : Op Ending :=
  match c, c.request? with
  | serve host port, _ => performServe k opening s host port
  | createTables, _ => performTables k opening
  | c, some r => performRequest k opening c r
  | _, none => return .showing k 0 opening

/-- The end of a command line whose settings cannot be loaded: that the input was
    too large is not caught. -/
def Ending.ofLoad (k : Tagging) (f : Settings.LoadFailure) : Ending :=
  if f.isExhaustion then .failed (.exhausted f.text) else .showing k 1 [loadBlock f]

/-- A command line whose settings are loaded.  A pool of connections is opened
    before the command is read. -/
def runWith (k : Tagging) (s : Settings) (i : Invocation) : Op Ending :=
  match Address.pool s.database.url with
  | .error fault => return .failed (.address fault)
  | .ok () =>
    match i.command with
    | .error misuse => return { exit := misuse.exit }
    | .ok c => do
      let ending ← perform k (if i.verbose then [verboseBlock] else []) s c
      return { ending with sink := some (.ofSettings s.logging) }

/-- A whole command line. -/
def run (w : World) (args : List String) : Op Ending :=
  match Invocation.read? w.files args with
  | .error misuse => return { exit := misuse.exit }
  | .ok i =>
    match settings w i with
    | .error f => return .ofLoad w.tagging f
    | .ok s => runWith w.tagging s i

end ReviewRota.Command
