/-
  ReviewRota — arguments.

  A text as a caller gives it may be missing, and it may hold halves of surrogate
  pairs, which no row of the store can hold.

  * `Argument` is such a text;
  * `Argument.text?` is the proper text, if it is one;
  * `Argument.isBlank` holds where nothing is given, and `Argument.trimmed` leaves
    out the blanks around what is given;
  * `Argument.obstacle` is why rows with the given arguments are not stored.
-/
import ReviewRota.Datum
import ReviewRota.Failure
import ReviewRota.Text.Blank

namespace ReviewRota

/-- A text as a caller gives it. -/
inductive Argument where
  | missing
  | text (s : String)
  | broken (points : List Text.Point)
  deriving DecidableEq, Repr

namespace Argument

/-- The text, if it is one. -/
def text? : Argument → Option String
  | text s => some s
  | _ => none

/-- The argument as a value of a document. -/
def datum : Argument → Datum
  | missing => .null
  | text s => .text s
  | broken ps => .broken ps

/-- The text, with `U+FFFD` for each half of a surrogate pair. -/
def shown : Argument → Option String
  | missing => none
  | text s => some s
  | broken ps => some (Text.ofPoints ps)

/-- The argument holds no more than blanks. -/
def isBlank : Argument → Bool
  | missing => true
  | text s => Text.allBlank s
  | broken _ => false

/-- The argument without the blanks at its ends. -/
def trimmed : Argument → Argument
  | text s => text (Text.trim s)
  | broken ps =>
    let isBlank (p : Text.Point) : Bool := p.char?.any Text.isBlank
    broken ((ps.dropWhile isBlank).reverse.dropWhile isBlank).reverse
  | missing => missing

/-- The failure that an argument brings which cannot be written. -/
def obstacle? : Argument → Option Failure
  | broken ps => some (.ofBroken ps)
  | _ => none

/-- Why a row of a table with these arguments, one of which is no text, is not
    stored: what cannot be written fails before what is missing. -/
def obstacle (table : String) (arguments : List Argument) : Failure :=
  (arguments.findSome? obstacle?).getD (.store (.missingValue table))

end Argument

end ReviewRota
