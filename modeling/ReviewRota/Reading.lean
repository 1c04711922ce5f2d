/-
  ReviewRota — reading dynamic values.

  A reader takes a value of a document and gives a domain value, or all the
  issues that stand in its way.  Readers are lenient where the meaning is plain:
  a number may be written as a text, and a flag as `yes` or `off`.

  * `Issue` is one flaw, the path to it and the flawed value; `Flaw.label` names
    the flaw, `Flaw.sentence` tells of it, and `Issue.report` tells of many;
  * `Reading` is the outcome of a reader; two readings side by side collect the
    issues of both, so that one answer tells all of them;
  * `text`, `flag`, `integer`, `quantity`, `moment`, `status`, `path` and
    `listOf` are the readers, and `Fields.read` reads an entry of a table;
  * `integerIn` reads an integer between two bounds.
-/
import ReviewRota.Datum.Shown
import ReviewRota.Moment.Timestamp
import ReviewRota.Numeral
import ReviewRota.Sorting
import ReviewRota.Store
import ReviewRota.Text.Case

namespace ReviewRota

/-! ## Issues -/

/-- What is wrong with a value. -/
inductive Flaw where
  | missing
  | unknownEntry
  | notText
  | brokenText
  | notFlag
  | unreadableFlag
  | notInteger
  | unreadableInteger
  | overlongInteger
  | fraction
  | notFinite
  | notNumber
  | unreadableNumber
  | belowLeast (least : Int)
  | aboveGreatest (greatest : Int)
  | notGreater (bound : Int)
  | notList
  | notPath
  | notTable (form : String)
  | notMember
  | notMoment
  | unreadableMoment
  | momentOutOfRange
  | unknownChoice
  | rejected (reason : String)
  deriving DecidableEq, Repr

/-- The name of a flaw. -/
def Flaw.label : Flaw → String
  | missing => "missing"
  | unknownEntry => "extra_forbidden"
  | notText => "string_type"
  | brokenText => "string_unicode"
  | notFlag => "bool_type"
  | unreadableFlag => "bool_parsing"
  | notInteger => "int_type"
  | unreadableInteger => "int_parsing"
  | overlongInteger => "int_parsing_size"
  | fraction => "int_from_float"
  | notFinite => "finite_number"
  | notNumber => "float_type"
  | unreadableNumber => "float_parsing"
  | belowLeast _ => "greater_than_equal"
  | aboveGreatest _ => "less_than_equal"
  | notGreater _ => "greater_than"
  | notList => "list_type"
  | notPath => "path_type"
  | notTable _ => "model_type"
  | notMember => "model_attributes_type"
  | notMoment => "datetime_type"
  | unreadableMoment => "datetime_from_date_parsing"
  | momentOutOfRange => "datetime_parsing"
  | unknownChoice => "enum"
  | rejected _ => "value_error"

/-- The sentence about a flaw. -/
def Flaw.sentence : Flaw → String
  | missing => "Field required"
  | unknownEntry => "Extra inputs are not permitted"
  | notText => "Input should be a valid string"
  | brokenText => "Input should be a valid string, unable to parse raw data as a unicode string"
  | notFlag => "Input should be a valid boolean"
  | unreadableFlag => "Input should be a valid boolean, unable to interpret input"
  | notInteger => "Input should be a valid integer"
  | unreadableInteger =>
    "Input should be a valid integer, unable to parse string as an integer"
  | overlongInteger => "Unable to parse input string as an integer, exceeded maximum size"
  | fraction => "Input should be a valid integer, got a number with a fractional part"
  | notFinite => "Input should be a finite number"
  | notNumber => "Input should be a valid number"
  | unreadableNumber => "Input should be a valid number, unable to parse string as a number"
  | belowLeast n => "Input should be greater than or equal to " ++ toString n
  | aboveGreatest n => "Input should be less than or equal to " ++ toString n
  | notGreater n => "Input should be greater than " ++ toString n
  | notList => "Input should be a valid list"
  | notPath => "Input is not a valid path"
  | notTable form => "Input should be a valid dictionary or instance of " ++ form
  | notMember => "Input should be a valid dictionary or object to extract fields from"
  | notMoment => "Input should be a valid datetime"
  | unreadableMoment => "Input should be a valid datetime or date"
  | momentOutOfRange => "Input should be a valid datetime"
  | unknownChoice => "Input should be 'OPEN' or 'MERGED'"
  | rejected reason => "Value error, " ++ reason

/-- A flaw, the path to the value that has it, and that value. -/
structure Issue where
  path : List String
  flaw : Flaw
  input : Datum
  deriving Repr

/-- The issue as seen from the value that holds the flawed one under a name. -/
def Issue.under (name : String) (i : Issue) : Issue := { i with path := name :: i.path }

/-- The one issue stands before the other: by path, then by the name of the flaw. -/
def Issue.before (a b : Issue) : Bool :=
  decide (a.path < b.path) || (a.path = b.path && decide (a.flaw.label ≤ b.flaw.label))

/-- The issues in the order of their paths. -/
def Issue.sorted (is : List Issue) : List Issue := sortBy Issue.before is

/-- A step of a path; one that holds a point stands in backticks. -/
def Issue.stepText (step : String) : String :=
  if step.toList.contains '.' then "\x60" ++ step ++ "\x60" else step

/-- What is told of one issue: the path, the sentence with the value, and where to
    read more. -/
def Issue.paragraph (i : Issue) : String :=
  (if i.path.isEmpty then "" else ".".intercalate (i.path.map Issue.stepText) ++ "\n") ++
    "  " ++ i.flaw.sentence ++ " [type=" ++ i.flaw.label ++ ", input_value=" ++ i.input.glimpse ++
    ", input_type=" ++ i.input.kind ++ "]\n" ++
    "    For further information visit " ++
    "/".intercalate ["https:", "", "errors.pydantic.dev", "2.12", "v", i.flaw.label]

/-- What is told of all issues of a form, in the order in which they were found. -/
def Issue.report (form : String) (is : List Issue) : String :=
  toString is.length ++ " validation error" ++ (if is.length = 1 then "" else "s") ++ " for " ++
    form ++ "\n" ++ "\n".intercalate (is.map Issue.paragraph)

/-! ## Readings -/

/-- The outcome of a reader. -/
inductive Reading (α : Type u) where
  | value (a : α)
  | flawed (issues : List Issue)
  deriving Repr

namespace Reading

/-- A flaw of the value itself. -/
def flaw (f : Flaw) (d : Datum) : Reading α := flawed [⟨[], f, d⟩]

/-- The value under a function. -/
protected def map (f : α → β) : Reading α → Reading β
  | value a => value (f a)
  | flawed is => flawed is

/-- Two readings side by side; the issues of both are collected. -/
protected def seq : Reading (α → β) → Reading α → Reading β
  | value f, value a => value (f a)
  | value _, flawed is => flawed is
  | flawed is, value _ => flawed is
  | flawed is, flawed js => flawed (is ++ js)

instance : Applicative Reading where
  map := Reading.map
  pure := value
  seq f a := Reading.seq f (a ())

/-- A reading that depends on the value of another. -/
def andThen (r : Reading α) (f : α → Reading β) : Reading β :=
  match r with
  | value a => f a
  | flawed is => flawed is

/-- The reading with its issues seen from the value that holds it under a name. -/
def under (name : String) : Reading α → Reading α
  | value a => value a
  | flawed is => flawed (is.map (Issue.under name))

/-- The value, or the issues. -/
def toExcept : Reading α → Except (List Issue) α
  | value a => .ok a
  | flawed is => .error is

/-- The readings of a list, all their issues collected. -/
def all : List (Reading α) → Reading (List α)
  | [] => value []
  | r :: rs => Reading.seq (Reading.map List.cons r) (all rs)

end Reading

/-! ## Readers -/

namespace Reading

/-- A text. -/
def text : Datum → Reading String
  | .text s => value s
  | .broken ps => flaw .brokenText (.broken ps)
  | d => flaw .notText d

/-- The words for "yes" and "no". -/
def flagOfWord? (s : String) : Option Bool :=
  let w := Text.lower s
  if ["1", "t", "true", "y", "yes", "on"].contains w then some true
  else if ["0", "f", "false", "n", "no", "off"].contains w then some false
  else none

/-- The flag of a number: an integer of 64 bits stands for a flag if it is zero or
    one, and any other number is none. -/
def flagOfInteger (d : Datum) (n : Int) : Reading Bool :=
  if n = 0 then value false
  else if n = 1 then value true
  else if Moment.isWord n then flaw .unreadableFlag d
  else flaw .notFlag d

/-- A flag: a truth value, one of the numbers 0 and 1, or a word. -/
def flag : Datum → Reading Bool
  | .bool b => value b
  | .int n => flagOfInteger (.int n) n
  | .real (.finite b) =>
    match b.toInt? with
    | some n =>
      if n = -9223372036854775808 then flaw .notFlag (.real (.finite b))
      else flagOfInteger (.real (.finite b)) n
    | none => flaw .notFlag (.real (.finite b))
  | .text s =>
    match flagOfWord? s with
    | some b => value b
    | none => flaw .unreadableFlag (.text s)
  | .broken ps => flaw .brokenText (.broken ps)
  | d => flaw .notFlag d

/-- An integer of 64 bits; the least one counts as too long. -/
def ofWhole (d : Datum) (n : Int) : Reading Int :=
  if Moment.isWord n ∧ n ≠ -9223372036854775808 then value n else flaw .overlongInteger d

/-- An integer: a number without a fraction, a truth value, or a text that
    writes one. -/
def integer : Datum → Reading Int
  | .int n => value n
  | .bool b => value (if b then 1 else 0)
  | .real (.finite b) =>
    match b.toInt? with
    | some n => ofWhole (.real (.finite b)) n
    | none => flaw .fraction (.real (.finite b))
  | .real q => flaw .notFinite (.real q)
  | .text s =>
    match Numeral.integer s with
    | .integer n => value n
    | .overlong => flaw .overlongInteger (.text s)
    | .unreadable => flaw .unreadableInteger (.text s)
  | .broken ps => flaw .brokenText (.broken ps)
  | d => flaw .notInteger d

/-- A number. -/
def quantity : Datum → Reading Quantity
  | .int n =>
    match Binary.ofInt? n with
    | some b => value (.finite b)
    | none => flaw .notNumber (.int n)
  | .bool b => value (.finite (.ofNat (if b then 1 else 0)))
  | .real q => value q
  | .text s =>
    match Numeral.quantity? s with
    | some q => value q
    | none => flaw .unreadableNumber (.text s)
  | .broken ps => flaw .brokenText (.broken ps)
  | d => flaw .notNumber d

/-- A moment that was found, if the clock shows it. -/
def shownMoment (d : Datum) : Option Moment → Reading Moment
  | some m => if m.inYears then value m else flaw .momentOutOfRange d
  | none => flaw .momentOutOfRange d

/-- A time: a text that writes one, or a number as a timestamp. -/
def moment : Datum → Reading Moment
  | .text s =>
    match Moment.read? s with
    | some m => shownMoment (.text s) (some m)
    | none => flaw .unreadableMoment (.text s)
  | .int n =>
    if Moment.isWord n then shownMoment (.int n) (Moment.ofCount? n 0)
    else
      match Binary.ofInt? n with
      | some b => shownMoment (.int n) (Moment.ofNumber? b)
      | none => flaw .notMoment (.int n)
  | .real (.finite b) => shownMoment (.real (.finite b)) (Moment.ofNumber? b)
  | .real q => flaw .momentOutOfRange (.real q)
  | .broken ps => flaw .brokenText (.broken ps)
  | d => flaw .notMoment d

/-- A status by its name. -/
def status : Datum → Reading Status
  | .text s =>
    match Status.ofName? s with
    | some t => value t
    | none => flaw .unknownChoice (.text s)
  | d => flaw .unknownChoice d

/-- A value, or `none` for `null`. -/
def optional (read : Datum → Reading α) : Datum → Reading (Option α)
  | .null => value none
  | d => (read d).map some

/-- A list, each item read, its issues under its number. -/
def listOf (read : Datum → Reading α) : Datum → Reading (List α)
  | .list ds => all (ds.mapIdx fun i d => (read d).under (toString i))
  | d => flaw .notList d

/-! ## Bounds -/

/-- An integer between two bounds. -/
def integerIn (least greatest : Int) (d : Datum) : Reading Int :=
  (integer d).andThen fun n =>
    if greatest < n then flaw (.aboveGreatest greatest) d
    else if n < least then flaw (.belowLeast least) d
    else value n

end Reading

/-! ## Entries -/

namespace Fields

/-- The entry of a name, which has to be there. -/
def read (fs : Fields) (name : String) (reader : Datum → Reading α) : Reading α :=
  match fs.get? name with
  | some d => (reader d).under name
  | none => .flawed [⟨[name], .missing, .table fs⟩]

/-- The entry of a name, or a value in its place. -/
def readOr (fs : Fields) (name : String) (default : α) (reader : Datum → Reading α) : Reading α :=
  match fs.get? name with
  | some d => (reader d).under name
  | none => .value default

/-- No entry but those of the given names. -/
def onlyNames (fs : Fields) (names : List String) : Reading Unit :=
  match fs.filter fun f => !names.contains f.1 with
  | [] => .value ()
  | unknown => .flawed (unknown.map fun f => ⟨[f.1], .unknownEntry, f.2⟩)

end Fields

end ReviewRota
