/-
  ReviewRota — settings from the environment.

  A variable `REVIEWPOOL_<SECTION>__<KEY>` gives one setting, and a variable
  `REVIEWPOOL_<SECTION>` a whole section as JSON, over which the single ones
  count.  Names have no case.  What is given outright counts over the
  environment, entry by entry.

  * `Section` describes a section: its name, its form, its entries, and those that
    are lists, whose variables hold JSON;
  * `Trouble` says why there are no settings at all;
  * `Section.own` are the settings of a section by themselves,
    `Section.fromRoot?` what the environment says of a section among all;
  * `Section.assemble` lays what is given over the environment for one section,
    `Settings.assemble` for all four.
-/
import ReviewRota.Datum.Json
import ReviewRota.Settings.Section

namespace ReviewRota.Settings

/-! ## Variables -/

/-- The variables: names in lower case, in the order in which they were set. -/
abbrev Environment := List (String × String)

namespace Environment

/-- The variables of the given names; the last of each name counts. -/
def ofPairs (pairs : List (String × String)) : Environment :=
  pairs.foldl (fun env p =>
    let name := Text.lower p.1
    if env.any (·.1 == name) then env.map fun q => if q.1 == name then (name, p.2) else q
    else env ++ [(name, p.2)]) []

/-- The value of a variable. -/
def get? (env : Environment) (name : String) : Option String := env.lookup name

end Environment

/-- The beginning of the names of all variables. -/
def variableRoot : String := "reviewpool_"

/-- The beginning of the names of variables, unless a table directs another one. -/
def beginningOr (usual : String) (given : Fields) : String :=
  match given.get? "_env_prefix" with
  | some (.text s) => Text.lower s
  | _ => usual

/-- What parts a name into its steps. -/
def stepMark : String := "__"

/-- The steps of a name. -/
def steps : List Char → List (List Char)
  | '_' :: '_' :: cs => [] :: steps cs
  | c :: cs =>
    match steps cs with
    | s :: ss => (c :: s) :: ss
    | [] => [[c]]
  | [] => [[]]

/-! ## Troubles -/

/-- Why there are no settings at all: a variable is not JSON, or too deep to be
    read, or a section that nothing gives is flawed. -/
inductive Trouble where
  | unreadable (field : String)
  | tooDeep (opened : Json.Inside)
  | flawed (form : String) (issues : List Issue)
  deriving Repr

/-- The value of a variable for a field. -/
def fromJson (field v : String) : Except Trouble Datum :=
  match Json.parse v with
  | .ok d => .ok d
  | .error (.tooDeep opened) => .error (.tooDeep opened)
  | .error _ => .error (.unreadable field)

/-- The complaint about a variable that is not JSON. -/
def unreadableText (field : String) : String :=
  "error parsing value for field \"" ++ field ++ "\" from source \"EnvSettingsSource\""

/-- The complaint about a variable that is too deep. -/
def tooDeepText (opened : Json.Inside) : String :=
  "maximum recursion depth exceeded while decoding a JSON " ++
    (match opened with | .list => "array" | .table => "object") ++ " from a unicode string"

/-! ## Sections -/

/-- A section of the settings. -/
structure Section (α : Type) where
  name : String
  form : String
  entries : List String
  lists : List String := []
  known : Fields → Reading α

/-- The section for the database. -/
def databaseSection : Section Database :=
  { name := "database", form := Database.form, entries := Database.names
    known := Database.readKnown }

/-- The section for the log. -/
def loggingSection : Section Logging :=
  { name := "logging", form := Logging.form, entries := Logging.names, known := Logging.readKnown }

/-- The section for the desk. -/
def engineSection : Section Engine :=
  { name := "engine", form := Engine.form, entries := Engine.names, known := Engine.readKnown }

/-- The section for the web application. -/
def webSection : Section Web :=
  { name := "web", form := Web.form, entries := Web.names, lists := ["cors_origins"]
    known := Web.readKnown }

namespace Section

/-! ## A section by itself -/

/-- The beginning of the names of a section's variables. -/
def beginning (s : Section α) (root : String) : String := root ++ s.name ++ stepMark

/-- The value of a variable for an entry: JSON for a list, where `null` says
    nothing, and text for any other. -/
def entryOf? (s : Section α) (env : Environment) (beginning entry : String) :
    Except Trouble (Option (String × Datum)) :=
  match env.get? (beginning ++ entry) with
  | none => .ok none
  | some v =>
    if s.lists.contains entry then do
      match ← fromJson entry v with
      | .null => return none
      | d => return some (entry, d)
    else .ok (some (entry, .text v))

/-- The settings of a section that the environment gives. -/
def own (s : Section α) (env : Environment) (beginning : String) : Except Trouble Fields := do
  return (← s.entries.mapM (s.entryOf? env beginning)).filterMap id

/-- A section from what is given and the environment. -/
def assemble (s : Section α) (env : Environment) (given : Fields) :
    Except Trouble (Reading α) := do
  let own ← s.own env (beginningOr (s.beginning variableRoot) given)
  return formed s.entries s.known ((chosen s.entries given).over own)

/-! ## A section among all -/

/-- The table with a value under a path of names; a value in the way stays. -/
def plant (last : String) (d : Datum) : List String → Fields → Fields
  | [], fs => fs.put last d
  | k :: ks, fs =>
    match fs.get? k with
    | none => fs.put k (.table (plant last d ks []))
    | some (.table t) => fs.put k (.table (plant last d ks t))
    | some _ => fs

/-- The value of a variable with the given steps.  An empty text is no JSON and
    stays a text. -/
def valueAt (s : Section α) (path : List String) (last v : String) : Except Trouble Datum :=
  if path.isEmpty && s.lists.contains last && v ≠ "" then fromJson s.name v
  else .ok (.text v)

/-- The table with what one variable says of the section. -/
def absorb (s : Section α) (beginning : String) (fs : Fields) (v : String × String) :
    Except Trouble Fields := do
  let mark := beginning.toList
  if mark.isPrefixOf v.1.toList then
    let path := (steps (v.1.toList.drop mark.length)).map String.ofList
    let last := path.getLastD ""
    return plant last (← s.valueAt path.dropLast last v.2) path.dropLast fs
  else return fs

/-- The table that the variables of single settings make. -/
def scattered (s : Section α) (root : String) (env : Environment) : Except Trouble Fields :=
  env.foldlM (s.absorb (s.beginning root)) []

/-- The table with the names of entries as the section spells them. -/
def respelt (s : Section α) (fs : Fields) : Fields :=
  Fields.ofEntries (fs.map fun f => ((s.entries.find? (Text.sameLetters · f.1)).getD f.1, f.2))

/-- What the environment says of a section, if anything.  A variable that is not
    JSON is told by the name of the section. -/
def fromRoot? (s : Section α) (root : String) (env : Environment) :
    Except Trouble (Option Datum) := do
  match env.get? (root ++ s.name) with
  | none =>
    let fs ← s.scattered root env
    return if fs.isEmpty then none else some (.table (s.respelt fs))
  | some v =>
    match ← fromJson s.name v with
    | .null => return none
    | .table fs => return some (.table (s.respelt ((← s.scattered root env).over fs)))
    | d => return some d

/-- The names of the variables of a section. -/
def variableNames (s : Section α) : List String :=
  ((variableRoot ++ s.name) :: s.entries.map (s.beginning variableRoot ++ ·)).map Text.capitals

end Section

/-! ## All settings -/

/-- The names of all variables. -/
def variableNames : List String :=
  databaseSection.variableNames ++ loggingSection.variableNames ++
    engineSection.variableNames ++ webSection.variableNames

/-- One section from the table of all; a section that is not there comes from
    the environment alone. -/
def Section.ofRoot (s : Section α) (env : Environment) (root : Fields) :
    Except Trouble (Reading α) :=
  match root.get? s.name with
  | none => do
    match (← s.assemble env []).toExcept with
    | .error issues => throw (.flawed s.form issues)
    | .ok a => return .value a
  | some (.table fs) =>
    match s.assemble env fs with
    | .error (.unreadable field) =>
      .ok ((Reading.flaw (.rejected (unreadableText field)) (.table fs)).under s.name)
    | .error trouble => .error trouble
    | .ok r => .ok (r.under s.name)
  | some d => .ok ((Reading.flaw (.notTable s.form) d).under s.name)

/-- What the environment says of all sections. -/
def fromEnvironment (root : String) (env : Environment) : Except Trouble Fields := do
  let database ← databaseSection.fromRoot? root env
  let logging ← loggingSection.fromRoot? root env
  let engine ← engineSection.fromRoot? root env
  let web ← webSection.fromRoot? root env
  return [("database", database), ("logging", logging), ("engine", engine), ("web", web)].filterMap
    fun s => s.2.map fun d => (s.1, d)

/-- All settings from what is given and the environment. -/
def assemble (env : Environment) (given : Fields) : Except Trouble (Reading Settings) := do
  let environment ← fromEnvironment (beginningOr variableRoot given) env
  let root := (chosen names given).over environment
  let database ← databaseSection.ofRoot env root
  let logging ← loggingSection.ofRoot env root
  let engine ← engineSection.ofRoot env root
  let web ← webSection.ofRoot env root
  return (fun database logging engine web (_ : Unit) => ⟨database, logging, engine, web⟩) <$>
    database <*> logging <*> engine <*> web <*> root.onlyNames names

end ReviewRota.Settings
