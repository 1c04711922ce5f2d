/-
  ReviewRota — settings files.

  Settings come from a file that is named, or from the first of the usual files
  that exists, or from no file; the environment fills what a file leaves open,
  and defaults fill the rest.

  * `LoadFailure` says why that fails, `LoadFailure.summary` the beginning of its
    text and `LoadFailure.text` the whole;
  * `locate` finds the file and `load` the settings;
  * `inForce` are the settings of a program that has loaded them.
-/
import ReviewRota.Datum.Toml
import ReviewRota.Settings.Environment

namespace ReviewRota.Settings

/-- The files that exist, with what they hold. -/
abbrev Files := List (String × String)

/-- Why there are no settings: there is no such file, the file is not well-formed
    or holds a number with too many digits or too many values inside one another,
    the settings are flawed, or a variable is not JSON or too deep. -/
inductive LoadFailure where
  | fileMissing (path : String)
  | malformed (path : String)
  | overlong
  | tooNested
  | invalid (path : Option String) (form : String) (issues : List Issue)
  | unreadable (field : String)
  | tooDeep (opened : Json.Inside)
  deriving Repr

/-- The settings in a file, or wherever they are from. -/
def LoadFailure.source : Option String → String
  | some path => "Invalid configuration in " ++ path
  | none => "Invalid configuration"

/-- The text of a failure, up to its details. -/
def LoadFailure.summary : LoadFailure → String
  | fileMissing path => "Config file not found: " ++ path
  | malformed path => source (some path)
  | overlong => "Exceeds the limit (4300 digits) for integer string conversion"
  | tooNested => "TOML inline arrays/tables are nested more than the allowed 400 levels"
  | invalid path _ _ => source path
  | unreadable field => unreadableText field
  | tooDeep opened => tooDeepText opened

/-- The text of a failure, with all that is told of flawed settings. -/
def LoadFailure.text : LoadFailure → String
  | invalid path form issues => source path ++ ": " ++ Issue.report form issues
  | f => f.summary

/-- The failure is the fault of no value but of the size of the input. -/
def LoadFailure.isExhaustion : LoadFailure → Bool
  | tooNested | tooDeep _ => true
  | _ => false

/-- The file that counts: the named one, which has to exist, or the first of the
    usual ones that exists. -/
def locate (files : Files) (usual : List String) : Option String →
    Except LoadFailure (Option (String × String))
  | some path =>
    match files.lookup path with
    | some contents => .ok (some (path, contents))
    | none => .error (.fileMissing path)
  | none => .ok (usual.findSome? fun path => (files.lookup path).map fun contents => (path, contents))

/-- The table of a file. -/
def fileTable : Option (String × String) → Except LoadFailure Fields
  | none => .ok []
  | some (path, contents) =>
    match Toml.parse contents with
    | .ok fs => .ok fs
    | .error .malformed => .error (.malformed path)
    | .error .overlong => .error .overlong
    | .error .tooNested => .error .tooNested

/-- The settings. -/
def load (env : Environment) (files : Files) (usual : List String) (named : Option String) :
    Except LoadFailure Settings := do
  let file ← locate files usual named
  let fs ← fileTable file
  match assemble env fs with
  | .error (.unreadable field) => throw (.unreadable field)
  | .error (.tooDeep opened) => throw (.tooDeep opened)
  | .error (.flawed form issues) => throw (.invalid (file.map Prod.fst) form issues)
  | .ok r =>
    match r.toExcept with
    | .error issues => throw (.invalid (file.map Prod.fst) form issues)
    | .ok settings => return settings

/-- The settings in force, once there are any. -/
def inForce : Option Settings → Except Failure Settings
  | some s => .ok s
  | none =>
    .error (.runtime "Application context not initialized. Call initialize_context first.")

end ReviewRota.Settings
