/-
  ReviewRota — where log lines go.

  The log has one sink: standard output, or a file that is rotated when it has
  grown to its greatest size.  A sink takes the entries of its level and above.

  * `Sink` is the sink, and `Sink.ofSettings` the one that the settings ask for;
  * `Sink.printed` are the JSON lines that it puts on standard output.
-/
import ReviewRota.Log.Line
import ReviewRota.Settings

namespace ReviewRota.Log

/-- A log file: its greatest size, and how many full files are kept. -/
structure RotatingFile where
  path : String
  maxBytes : Int
  backups : Int
  deriving DecidableEq, Repr

/-- Where log lines go. -/
structure Sink where
  threshold : Level
  format : Settings.LineFormat
  file : Option RotatingFile := none
  deriving DecidableEq, Repr

namespace Sink

/-- The sink that the settings ask for. -/
def ofSettings (s : Settings.Logging) : Sink where
  threshold := s.level
  format := s.format
  file := s.file.map fun path => ⟨path, s.rotationMegabytes * 1024 * 1024, s.retention⟩

/-- The JSON lines of the entries on standard output. -/
def printed (s : Sink) (entries : List Entry) : List Fields :=
  if s.file.isNone ∧ s.format = .json then written s.threshold entries else []

end Sink

end ReviewRota.Log
