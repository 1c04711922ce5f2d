/-
  ReviewRota — commands.

  The command line starts the web application, creates the tables, or makes one
  request for a team or a pull request.  Options for all commands come first: a
  settings file, and whether the log tells details.

  * `Command` is the closed list of commands, and `Command.read` reads one;
  * `Invocation` is a whole command line, whose command is read once the settings
    are known, and `Invocation.read` reads it;
  * `Misuse` says that a command line is none, or asks for help, and `Misuse.exit`
    is the exit status then.
-/
import ReviewRota.Command.Arguments
import ReviewRota.Numeral
import ReviewRota.Settings.Load

namespace ReviewRota

/-- What the command line can ask for. -/
inductive Command where
  | serve (host : Option String) (port : Option Int)
  | createTables
  | showTeam (team : String)
  | deactivateTeam (team : String)
  | merge (pull : String)
  | reassign (pull leaving : String)
  | pullReport (pull : String)
  deriving DecidableEq, Repr

namespace Command

/-- A command line that names no command. -/
inductive Misuse where
  | wrong
  | help
  deriving DecidableEq, Repr

/-- The exit status of a misuse. -/
def Misuse.exit : Misuse → Nat
  | wrong => 2
  | help => 0

/-- The option that asks for help. -/
def helpSwitch : Switch := ⟨"--help", none, false⟩

/-- Arguments with the given options; a request for help counts before all. -/
def arguments (switches : List Switch) (mixed : Bool) (args : List String) :
    Except Misuse Given :=
  match readArguments (helpSwitch :: switches) mixed args with
  | none => .error .wrong
  | some g => if g.has helpSwitch.long then .error .help else .ok g

/-- The command that starts the web application. -/
def readServe (args : List String) : Except Misuse Command := do
  let g ← arguments [⟨"--host", some 'h', true⟩, ⟨"--port", some 'p', true⟩] true args
  let port ← match g.last? "--port" with
    | none => pure none
    | some s =>
      match Numeral.integer s with
      | .integer n => pure (some n)
      | _ => throw .wrong
  if g.words.isEmpty then return .serve (g.last? "--host") port else throw .wrong

/-- A command of words only. -/
def readWords (command : List String → Option Command) (args : List String) :
    Except Misuse Command := do
  match command (← arguments [] true args).words with
  | some c => return c
  | none => throw .wrong

/-- A command of one word. -/
def ofWord (command : String → Command) : List String → Option Command
  | [w] => some (command w)
  | _ => none

/-- A command of two words. -/
def ofWords (command : String → String → Command) : List String → Option Command
  | [v, w] => some (command v w)
  | _ => none

/-- A command for teams. -/
def teamCommand? : String → Option (List String → Option Command)
  | "show" => some (ofWord .showTeam)
  | "deactivate" => some (ofWord .deactivateTeam)
  | _ => none

/-- A command for pull requests. -/
def pullCommand? : String → Option (List String → Option Command)
  | "merge" => some (ofWord .merge)
  | "reassign" => some (ofWords .reassign)
  | "stats" => some (ofWord .pullReport)
  | _ => none

/-- A command of a group, which is named by the first word. -/
def readGroup (command? : String → Option (List String → Option Command)) (args : List String) :
    Except Misuse Command := do
  match (← arguments [] false args).words with
  | [] => throw .wrong
  | name :: args =>
    match command? name with
    | some command => readWords command args
    | none => throw .wrong

/-- The readers of the commands. -/
def readers : List (String × (List String → Except Misuse Command)) :=
  [("serve", readServe), ("init-db", readWords fun ws => if ws.isEmpty then some .createTables else none),
    ("team", readGroup teamCommand?), ("pr", readGroup pullCommand?)]

end Command

/-! ## Command lines -/

/-- A command line: the settings file and the details that it asks for, and how
    its command is read. -/
structure Invocation where
  config : Option String := none
  verbose : Bool := false
  read : List String → Except Command.Misuse Command
  arguments : List String

namespace Invocation

/-- The command of a command line. -/
def command (i : Invocation) : Except Command.Misuse Command := i.read i.arguments

/-- The settings file that is asked for, if it exists. -/
def existing (files : Settings.Files) : Option String → Except Command.Misuse (Option String)
  | none => .ok none
  | some path =>
    let path := Settings.normalPath path
    if (files.lookup path).isSome then .ok (some path) else .error .wrong

/-- The options of all commands, and the words behind them. -/
def opening (args : List String) : Except Command.Misuse Command.Given :=
  Command.arguments [⟨"--config", some 'c', true⟩, ⟨"--verbose", some 'v', false⟩] false args

/-- The settings file that the arguments ask for. -/
def asked? (args : List String) : Option String :=
  (opening args).toOption.bind (·.last? "--config")

/-- A command line; its command is known but not read yet. -/
def read? (files : Settings.Files) (args : List String) : Except Command.Misuse Invocation := do
  let g ← opening args
  let config ← existing files (g.last? "--config")
  match g.words with
  | [] => throw .wrong
  | name :: args =>
    match Command.readers.lookup name with
    | some read => return ⟨config, g.has "--verbose", read, args⟩
    | none => throw .wrong

end Invocation

end ReviewRota
