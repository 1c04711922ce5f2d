/-
  ReviewRota — timestamps.

  A moment may be given by its distance from the start of 1970: in seconds, or, if
  the number is above `2·10^10` of either sign, in milliseconds.  Timestamps reach
  from the start of year 0 to the end of year 9999.

  * `Moment.ofCount?` is the moment of a whole number and some microseconds;
  * `Moment.ofNumber?` is the moment of a number with a fraction;
  * `Moment.ofNumeral?` reads a timestamp in decimal notation, and `Moment.read?`
    a moment written in either way.
-/
import ReviewRota.Moment

namespace ReviewRota.Moment

/-- The greatest number of seconds; above it a number counts milliseconds. -/
def greatestSeconds : Int := 20000000000

/-- The bounds of whole numbers. -/
def isWord (n : Int) : Bool := -9223372036854775808 ≤ n && n ≤ 9223372036854775807

/-- The moment so many seconds and microseconds from the start of 1970. -/
def ofSeconds? (seconds : Int) (micros : Int) : Option Moment :=
  let m : Moment := ⟨seconds * 1000000 + micros⟩
  if -62167219200 ≤ seconds + micros / 1000000 ∧ seconds + micros / 1000000 ≤ 253402300799 then some m
  else none

/-- The moment of a whole number of seconds or milliseconds, and some microseconds
    more. -/
def ofCount? (n : Int) (micros : Int) : Option Moment :=
  if n.natAbs ≤ greatestSeconds then ofSeconds? n micros
  else if n = -9223372036854775808 then none
  else ofSeconds? (n / 1000) (n % 1000 * 1000 + micros)

/-- The number of whole microseconds nearest to so many seconds below one; a tie
    goes up. -/
def microsOf (seconds : Binary) : Nat :=
  let m := seconds.scaled 1000000 1
  (2 * m.num + m.den) / (2 * m.den)

/-- The moment of a number with a fraction, whose size counts. -/
def ofNumber? (b : Binary) : Option Moment :=
  if isWord b.floor then ofCount? b.floor (microsOf b.fraction) else none

/-- The sum of a number and the digits behind its point, one after the other, each
    sum rounded; `unit` is the place of the next digit. -/
def withDigits : Binary → Nat → List Char → Binary
  | b, _, [] => b
  | b, unit, c :: cs => withDigits (b.plus ((Binary.ofNat (digitValue c)).scaled 1 unit)) (unit * 10) cs

/-- The part of a number above its floor. -/
def aboveFloor (b : Binary) : Binary :=
  if b.negative && !b.fraction.isZero then
    (Binary.ofRatio? false (b.fraction.den - b.fraction.num) b.fraction.den).getD b.fraction
  else b.fraction

/-- The moment of a written number with a fraction; milliseconds are first made
    seconds. -/
def ofWritten? (b : Binary) : Option Moment :=
  let inSeconds := if b.compare greatestSeconds = .gt ∨ b.compare (-greatestSeconds) = .lt then
    b.scaled 1 1000 else b
  if isWord inSeconds.floor then ofCount? inSeconds.floor (microsOf (aboveFloor inSeconds)) else none

/-- The moment of a timestamp in decimal notation: a sign, digits, and perhaps a
    point and more digits. -/
def ofNumeral? (cs : List Char) : Option Moment :=
  let (negative, body) := takeSign cs
  let whole := body.takeWhile Char.isDigit
  let n : Int := if negative then -(natOfDigits whole : Int) else natOfDigits whole
  if whole.isEmpty || !isWord n then none
  else
    match body.dropWhile Char.isDigit with
    | [] => ofCount? n 0
    | '.' :: digits =>
      if digits.all Char.isDigit then
        let size := withDigits ((Binary.ofInt? n.natAbs).getD .zero) 10 digits
        ofWritten? { size with negative }
      else none
    | _ => none

/-- The moment that a text writes: a date, a date and a time, or a timestamp. -/
def read? (s : String) : Option Moment := parse s <|> ofNumeral? s.toList

example : (read? "1735776000.5").map iso = some "2025-01-02T00:00:00.500000" ∧
    (read? "1735776000000").map iso = some "2025-01-02T00:00:00" ∧
    (read? "-0.25").map iso = some "1969-12-31T23:59:59.750000" ∧ read? "1e9" = none := by
  decide +kernel

end ReviewRota.Moment
