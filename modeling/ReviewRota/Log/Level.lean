/-
  ReviewRota — log levels.

  Every log entry has one of five levels, from `debug` to `critical`.  A log
  that is set to a level keeps the entries of that level and above.

  * `Level.rank` orders the levels by the usual numbers;
  * `Level.keeps` tells whether a log of one level keeps an entry of another;
  * `Level.name` and `Level.label` write a level in capitals and in lower case.
-/
namespace ReviewRota.Log

/-- How much an entry matters. -/
inductive Level where
  | debug
  | info
  | warning
  | error
  | critical
  deriving DecidableEq, Repr

namespace Level

/-- All levels, from the least. -/
def all : List Level := [debug, info, warning, error, critical]

/-- The number of a level. -/
def rank : Level → Nat
  | debug => 10
  | info => 20
  | warning => 30
  | error => 40
  | critical => 50

/-- The name of a level in settings. -/
def name : Level → String
  | debug => "DEBUG"
  | info => "INFO"
  | warning => "WARNING"
  | error => "ERROR"
  | critical => "CRITICAL"

/-- The name of a level in a log entry. -/
def label : Level → String
  | debug => "debug"
  | info => "info"
  | warning => "warning"
  | error => "error"
  | critical => "critical"

/-- The level of a name. -/
def ofName? (s : String) : Option Level := all.find? (·.name = s)

/-- The level of a label. -/
def ofLabel? (s : String) : Option Level := all.find? (·.label = s)

/-- A log of the level `threshold` keeps entries of level `l`. -/
def keeps (threshold l : Level) : Bool := decide (threshold.rank ≤ l.rank)

theorem ofName?_name (l : Level) : ofName? l.name = some l := by cases l <;> decide +kernel

theorem ofLabel?_label (l : Level) : ofLabel? l.label = some l := by cases l <;> decide +kernel

end Level

end ReviewRota.Log
