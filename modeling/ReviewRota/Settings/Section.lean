/-
  ReviewRota — the sections of the settings.

  Each section is a table whose entries have a type and bounds; an entry of
  another name is an issue.

  * `Database.readKnown`, `Logging.readKnown`, `Engine.readKnown` and
    `Web.readKnown` read the entries of one section;
  * `chosen` finds the entries that count, in whatever case they are named;
    `Logging.read`, `Engine.read` and `Web.read` read a section by itself;
  * `normalPath` is the usual spelling of a file name;
  * each section has a `datum`.
-/
import ReviewRota.Reading
import ReviewRota.Settings

namespace ReviewRota.Settings

/-! ## Values -/

/-- The pieces of a text between slashes. -/
def slashed (cs : List Char) : List (List Char) := cs.splitOn '/'

/-- The usual spelling of a file name: no empty step and no step `.`; the root is
    one slash, or two if exactly two stand there. -/
def normalPath (s : String) : String :=
  let cs := s.toList
  let root := match cs.takeWhile (· == '/') with
    | [] => ""
    | [_, _] => "//"
    | _ => "/"
  let steps := (slashed cs).filter fun p => p ≠ [] ∧ p ≠ ['.']
  let body := "/".intercalate (steps.map String.ofList)
  if root = "" ∧ body = "" then "." else root ++ body

example : normalPath "a//b/./c/" = "a/b/c" ∧ normalPath "" = "." ∧ normalPath "///x" = "/x" ∧
    normalPath "//x" = "//x" := by decide +kernel

/-- A file name. -/
def path : Datum → Reading String
  | .text s => .value (normalPath s)
  | .broken ps => .value (Text.ofPoints ps)
  | d => .flaw .notPath d

/-- The names that a value may have, as a complaint lists them. -/
def namesText (names : List String) : String :=
  "[" ++ ", ".intercalate (names.map fun n => "'" ++ n ++ "'") ++ "]"

/-- A log level, in any case. -/
def level (d : Datum) : Reading Log.Level :=
  (Reading.text d).andThen fun s =>
    match Log.Level.ofName? (Text.capitals s) with
    | some l => .value l
    | none => .flaw (.rejected ("Invalid log level: " ++ s ++ ". Must be one of " ++
        namesText ["CRITICAL", "DEBUG", "ERROR", "INFO", "WARNING"])) d

/-- The form of a log line, in any case. -/
def format (d : Datum) : Reading LineFormat :=
  (Reading.text d).andThen fun s =>
    match [LineFormat.json, .console].find? fun f => f.name = Text.lower s with
    | some f => .value f
    | none => .flaw (.rejected ("Invalid log format: " ++ s ++ ". Must be one of " ++
        namesText ["console", "json"])) d

/-- A time span in seconds: at most 300, more than none. -/
def timeout (d : Datum) : Reading Binary :=
  (Reading.quantity d).andThen fun
    | .finite b =>
      if b.compare 300 = .gt then .flaw (.aboveGreatest 300) d
      else if b.compare 0 ≠ .gt then .flaw (.notGreater 0) d
      else .value b
    | .infinite true => .flaw (.notGreater 0) d
    | _ => .flaw (.aboveGreatest 300) d

/-! ## Sections -/

/-- The names of a section's entries. -/
def Database.names : List String := ["url", "pool_size", "max_overflow", "echo"]

/-- The section that a table describes, but for entries of other names. -/
def Database.readKnown (fs : Fields) : Reading Database :=
  Database.mk <$> fs.readOr "url" ({} : Database).url .text <*>
    fs.readOr "pool_size" 10 (.integerIn 1 100) <*>
    fs.readOr "max_overflow" 10 (.integerIn 0 100) <*> fs.readOr "echo" false .flag

/-- The names of a section's entries. -/
def Logging.names : List String :=
  ["level", "format", "file", "rotation_size_mb", "retention_count"]

/-- The section that a table describes, but for entries of other names. -/
def Logging.readKnown (fs : Fields) : Reading Logging :=
  Logging.mk <$> fs.readOr "level" .info Settings.level <*>
    fs.readOr "format" .json Settings.format <*> fs.readOr "file" none (.optional path) <*>
    fs.readOr "rotation_size_mb" 50 (.integerIn 1 1000) <*>
    fs.readOr "retention_count" 10 (.integerIn 1 100)

/-- The names of a section's entries. -/
def Engine.names : List String :=
  ["operation_timeout_seconds", "max_reviewers", "default_stats_limit"]

/-- The section that a table describes, but for entries of other names. -/
def Engine.readKnown (fs : Fields) : Reading Engine :=
  Engine.mk <$> fs.readOr "operation_timeout_seconds" (.ofNat 3) timeout <*>
    fs.readOr "max_reviewers" 2 (.integerIn 1 10) <*>
    fs.readOr "default_stats_limit" 10 (.integerIn 1 1000)

/-- The names of a section's entries. -/
def Web.names : List String := ["host", "port", "cors_origins"]

/-- The section that a table describes, but for entries of other names. -/
def Web.readKnown (fs : Fields) : Reading Web :=
  Web.mk <$> fs.readOr "host" ({} : Web).host .text <*>
    fs.readOr "port" 8080 (.integerIn 1 65535) <*>
    fs.readOr "cors_origins" ({} : Web).corsOrigins (.listOf .text)

/-- Names in a table that speak to the reader of settings and are no entries. -/
def directives : List String :=
  ["_case_sensitive", "_nested_model_default_partial_update", "_env_prefix", "_env_prefix_target",
    "_env_file", "_env_file_encoding", "_env_ignore_empty", "_env_nested_delimiter",
    "_env_nested_max_split", "_env_parse_none_str", "_env_parse_enums", "_cli_prog_name",
    "_cli_parse_args", "_cli_settings_source", "_cli_parse_none_str", "_cli_hide_none_type",
    "_cli_avoid_json", "_cli_enforce_required", "_cli_use_class_docs_for_groups",
    "_cli_exit_on_error", "_cli_prefix", "_cli_flag_prefix_char", "_cli_implicit_flags",
    "_cli_ignore_unknown_args", "_cli_kebab_case", "_cli_shortcuts", "_secrets_dir",
    "_build_sources"]

/-- The entries of a table under the given names, in any case, the first one for
    each name, and behind them the entries of other names.  Directives are left
    aside. -/
def chosen (names : List String) (fs : Fields) : Fields :=
  let fs := fs.filter fun f => !directives.contains f.1
  names.filterMap (fun n => (fs.find? fun f => Text.sameLetters f.1 n).map fun f => (n, f.2)) ++
    fs.filter fun f => !names.any (Text.sameLetters f.1)

/-- A section from its entries. -/
def formed (names : List String) (known : Fields → Reading α) (fs : Fields) : Reading α :=
  Reading.seq (Reading.map (fun a _ => a) (known fs)) (Fields.onlyNames fs names)

/-- A section: a table with known entries. -/
def section? (form : String) (names : List String) (known : Fields → Reading α) : Datum → Reading α
  | .table fs => formed names known (chosen names fs)
  | d => .flaw (.notTable form) d

/-- The name of a section's form. -/
def Database.form : String := "DatabaseConfig"

/-- The name of a section's form. -/
def Logging.form : String := "LoggingConfig"

/-- The name of a section's form. -/
def Engine.form : String := "EngineConfig"

/-- The name of a section's form. -/
def Web.form : String := "WebConfig"

/-- The section for the log. -/
def Logging.read : Datum → Reading Logging := section? Logging.form Logging.names Logging.readKnown

/-- The section for the desk. -/
def Engine.read : Datum → Reading Engine := section? Engine.form Engine.names Engine.readKnown

/-- The section for the web application. -/
def Web.read : Datum → Reading Web := section? Web.form Web.names Web.readKnown

/-- The names of the sections. -/
def names : List String := ["database", "logging", "engine", "web"]

/-- The name of the form of all settings. -/
def form : String := "ReviewpoolConfig"

example : chosen ["a", "b"] [("B", .int 1), ("b", .int 2), ("c", .int 3), ("_env_file", .int 4)] =
    [("b", .int 1), ("c", .int 3)] := by rfl

/-! ## As documents -/

/-- The document of the section. -/
def Database.datum (s : Database) : Datum :=
  .table [("url", .text s.url), ("pool_size", .int s.poolSize),
    ("max_overflow", .int s.maxOverflow), ("echo", .bool s.echo)]

/-- The document of the section. -/
def Logging.datum (s : Logging) : Datum :=
  .table [("level", .text s.level.name), ("format", .text s.format.name), ("file", .text? s.file),
    ("rotation_size_mb", .int s.rotationMegabytes), ("retention_count", .int s.retention)]

/-- The document of the section. -/
def Engine.datum (s : Engine) : Datum :=
  .table [("operation_timeout_seconds", .real (.finite s.timeoutSeconds)),
    ("max_reviewers", .int s.maxReviewers), ("default_stats_limit", .int s.defaultLimit)]

/-- The document of the section. -/
def Web.datum (s : Web) : Datum :=
  .table [("host", .text s.host), ("port", .int s.port), ("cors_origins", .texts s.corsOrigins)]

/-- The document of all settings. -/
def datum (s : Settings) : Datum :=
  .table [("database", s.database.datum), ("logging", s.logging.datum),
    ("engine", s.engine.datum), ("web", s.web.datum)]

end ReviewRota.Settings
