/-
  ReviewRota — the program.

  Runs one command line over a store that is kept in memory, and so begins empty.
  What it prints comes first, then the lines of the log; a failure that the
  command does not handle goes to the error output.

  * `main` gathers the variables, the files, the clock and random draws, and
    prints how the command line ends.
-/
import ReviewRota.Session
import Std.Time.DateTime.Timestamp

open ReviewRota

/-- The variables that are set. -/
def readVariables : IO Settings.Environment := do
  let pairs ← List.filterMapM
    (fun name => return (← IO.getEnv name).map fun value => (name, value)) Settings.variableNames
  return Settings.Environment.ofPairs pairs

/-- The file of a name with what it holds, if it can be read. -/
def readExisting (name : String) : IO (Option (String × String)) := do
  try
    return some (Settings.normalPath name, ← IO.FS.readFile name)
  catch _ => return none

/-- The surroundings of the given arguments. -/
def readWorld (args : List String) : IO Command.World := do
  let here := (← IO.currentDir).toString ++ "/reviewpool.toml"
  let home := (← IO.getEnv "HOME").map (· ++ "/.config/reviewpool/config.toml")
  let usual := here :: home.toList
  let files ← ((Invocation.asked? args).toList ++ usual).filterMapM readExisting
  return { environment := ← readVariables, files, usual }

/-- The reading of the clock. -/
def readClock : IO Moment := do
  let now ← Std.Time.Timestamp.now
  return ⟨now.toNanosecondsSinceUnixEpoch.toInt / 1000⟩

/-- Draws for one command. -/
def drawMany (count : Nat) : IO (List Draw) :=
  (List.replicate count ()).mapM fun _ => return .index (← IO.rand 0 2147483648)

/-- How a command line ends, shown. -/
def showEnding (e : Command.Ending) (log : List Log.Entry) : IO Unit := do
  let printed := e.printed.getD {}
  for line in printed.lines do IO.println line
  for line in e.logged log do IO.println (Json.render (.table line))
  match printed.fault, e.failure with
  | some m, _ => IO.eprintln m.text
  | none, some f => IO.eprintln f.text
  | none, none => if e.exit = 2 then IO.eprintln "usage: reviewpool [OPTIONS] COMMAND [ARGS]..."

/-- One command line, run. -/
def main (args : List String) : IO UInt32 := do
  let world ← readWorld args
  let settings := ((Invocation.read? world.files args).toOption.bind fun i =>
    (Command.settings world i).toOption).getD {}
  let site : Site := { settings, world }
  let session : Session := { clock := ← readClock, draws := ← drawMany 1000 }
  let (outcome, scene, _) := session.act site {} (.command args)
  match outcome with
  | .ok (.ending e) => do
    showEnding e scene.log
    return e.exit.toUInt32
  | _ => return 1
