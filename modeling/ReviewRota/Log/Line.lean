/-
  ReviewRota — log lines.

  A written line holds the data of its event, the level, the logger, and what is
  bound for the request that is being served: its correlation id and the ids of
  what it is about.

  * `Context` is what is bound; `Context.bind` adds ids to it;
  * `Logger` is a named source of lines with fields of its own;
  * `compose` puts a line together: a field of the event counts more than one of
    the logger, that more than one of the context, and the correlation id of the
    request more than a field of that name; fields that ask for traces are left
    out;
  * `Entry` is an event with its context, and `Entry.line` what is written.
-/
import ReviewRota.Log.Event

namespace ReviewRota.Log

/-- What is bound to every line while a request is served. -/
structure Context where
  correlation : Option String := none
  bound : Fields := []
  deriving Repr, Inhabited

namespace Context

/-- The context with one more id, or another value for it. -/
def bind (c : Context) (name : String) (d : Datum) : Context := { c with bound := c.bound.put name d }

/-- The line with the correlation id of the context, if it has one. -/
def mark (c : Context) (line : Fields) : Fields :=
  match c.correlation with
  | some id => line.put "correlation_id" (.text id)
  | none => line

end Context

/-- A source of lines. -/
structure Logger where
  name : String
  bound : Fields := []
  deriving Repr

/-- The logger with more fields of its own. -/
def Logger.binding (l : Logger) (fields : Fields) : Logger :=
  { l with bound := fields.foldl (fun t f => t.put f.1 f.2) l.bound }

/-- The name of a logger on its lines; the one without a name is the root. -/
def Logger.label (l : Logger) : String := if l.name = "" then "root" else l.name

/-- Fields that ask for traces instead of being written. -/
def directives : List String := ["exc_info", "stack_info"]

/-- The line that a logger writes of an event. -/
def compose (context : Context) (logger : Logger) (level : Level) (event : String)
    (fields : Fields) : Fields :=
  let own := (logger.binding fields).bound
  let line := ((own.put "event" (.text event)).put "level" (.text level.label)).put "logger"
    (.text logger.label)
  (context.mark (line.orElse context.bound)).filter fun f => !directives.contains f.1

/-- An event and what was bound when it was written. -/
structure Entry where
  context : Context := {}
  event : Event
  deriving Repr

/-- The line of an entry. -/
def Entry.line (e : Entry) : Fields :=
  let bound := match e.event.component? with
    | some c => [("component", Datum.text c)]
    | none => []
  compose e.context ⟨e.event.logger, bound⟩ e.event.level e.event.name e.event.fields

/-- The lines that a log of the given level keeps. -/
def written (threshold : Level) (entries : List Entry) : List Fields :=
  (entries.filter fun e => threshold.keeps e.event.level).map Entry.line

end ReviewRota.Log
