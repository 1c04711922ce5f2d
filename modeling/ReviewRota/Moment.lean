/-
  ReviewRota — moments.

  A moment is a reading of the desk's clock: a whole number of microseconds,
  counted from the start of 1970 by the Gregorian calendar, without a zone.

  * `Moment` is the reading, ordered by its count;
  * `CivilDate.toDays` and `CivilDate.ofDays` go between dates and day numbers;
  * `Moment.iso` writes a moment as `2025-01-31T09:30:00`, with six digits after
    a point only where the microseconds are not zero, and `Moment.stamp` writes
    it to the second with a space between date and time;
  * `Moment.parse` reads a date, or a date and a time with or without an offset
    from UTC.  The written fields count: an offset is checked and dropped.  Years
    from 0 on are read; `Moment.inYears` holds of the years 1 to 9999, which alone
    the clock shows.
-/
import ReviewRota.Quantity

namespace ReviewRota

/-- A reading of the clock, in microseconds. -/
structure Moment where
  micros : Int
  deriving DecidableEq, Repr, Inhabited

namespace Moment

instance : LE Moment := ⟨fun a b => a.micros ≤ b.micros⟩
instance : LT Moment := ⟨fun a b => a.micros < b.micros⟩
instance (a b : Moment) : Decidable (a ≤ b) := inferInstanceAs (Decidable (a.micros ≤ b.micros))
instance (a b : Moment) : Decidable (a < b) := inferInstanceAs (Decidable (a.micros < b.micros))

/-- The moment some microseconds later. -/
def later (m : Moment) (micros : Int) : Moment := ⟨m.micros + micros⟩

/-- The moment some seconds later, to the nearest microsecond. -/
def advance (m : Moment) (seconds : Binary) : Moment := m.later seconds.micros

end Moment

/-! ## Dates -/

/-- A date of the Gregorian calendar. -/
structure CivilDate where
  year : Int
  month : Nat
  day : Nat
  deriving DecidableEq, Repr

namespace CivilDate

/-- The year has a 29th of February. -/
def isLeap (year : Int) : Bool := year % 4 = 0 && (year % 100 ≠ 0 || year % 400 = 0)

/-- The number of days of a month. -/
def daysIn (year : Int) (month : Nat) : Nat :=
  if month = 2 then (if isLeap year then 29 else 28)
  else if month = 4 ∨ month = 6 ∨ month = 9 ∨ month = 11 then 30
  else 31

/-- The date exists, in the years 0 to 9999. -/
def valid (d : CivilDate) : Bool :=
  0 ≤ d.year && d.year ≤ 9999 && 1 ≤ d.month && d.month ≤ 12 &&
    1 ≤ d.day && d.day ≤ daysIn d.year d.month

/-- The number of the day, counted from the start of 1970.  The year is taken
    to begin in March, so that the leap day is its last. -/
def toDays (d : CivilDate) : Int :=
  let y := if d.month ≤ 2 then d.year - 1 else d.year
  let era := y / 400
  let yearOfEra := y % 400
  let monthFromMarch : Int := (d.month + 9) % 12
  let dayOfYear := (153 * monthFromMarch + 2) / 5 + d.day - 1
  let dayOfEra := yearOfEra * 365 + yearOfEra / 4 - yearOfEra / 100 + dayOfYear
  era * 146097 + dayOfEra - 719468

/-- The date with the given day number. -/
def ofDays (days : Int) : CivilDate :=
  let z := days + 719468
  let era := z / 146097
  let dayOfEra := z % 146097
  let yearOfEra := (dayOfEra - dayOfEra / 1460 + dayOfEra / 36524 - dayOfEra / 146096) / 365
  let dayOfYear := dayOfEra - (365 * yearOfEra + yearOfEra / 4 - yearOfEra / 100)
  let monthFromMarch := (5 * dayOfYear + 2) / 153
  let day := dayOfYear - (153 * monthFromMarch + 2) / 5 + 1
  let month := if monthFromMarch < 10 then monthFromMarch + 3 else monthFromMarch - 9
  let year := yearOfEra + era * 400 + (if month ≤ 2 then 1 else 0)
  ⟨year, month.toNat, day.toNat⟩

end CivilDate

namespace Moment

/-- The microseconds of a day. -/
def dayMicros : Int := 86400000000

/-- The moment of a date and a time of day. -/
def ofFields (date : CivilDate) (hour minute second micro : Nat) : Moment :=
  ⟨date.toDays * dayMicros + (((hour * 60 + minute) * 60 + second) * 1000000 + micro : Nat)⟩

/-- The moment lies in the years 1 to 9999. -/
def inYears (m : Moment) : Bool :=
  ofFields ⟨1, 1, 1⟩ 0 0 0 0 ≤ m && m < ofFields ⟨10000, 1, 1⟩ 0 0 0 0

/-! ## Writing -/

/-- The number in at least the given count of digits. -/
def padded (width : Nat) (n : Nat) : String :=
  let digits := toString n
  String.ofList (List.replicate (width - digits.length) '0') ++ digits

/-- The date of a moment as `2025-01-31`. -/
def dateText (m : Moment) : String :=
  let d := CivilDate.ofDays (m.micros / dayMicros)
  padded 4 d.year.toNat ++ "-" ++ padded 2 d.month ++ "-" ++ padded 2 d.day

/-- The time of day of a moment as `09:30:00`. -/
def timeText (m : Moment) : String :=
  let s := (m.micros % dayMicros / 1000000).toNat
  padded 2 (s / 3600) ++ ":" ++ padded 2 (s / 60 % 60) ++ ":" ++ padded 2 (s % 60)

/-- Date and time with a `T` between them, and the microseconds if they are not
    zero. -/
def iso (m : Moment) : String :=
  let micro := (m.micros % 1000000).toNat
  m.dateText ++ "T" ++ m.timeText ++ (if micro = 0 then "" else "." ++ padded 6 micro)

/-- Date and time to the second with a space between them. -/
def stamp (m : Moment) : String := m.dateText ++ " " ++ m.timeText

/-! ## Reading -/

/-- The number of exactly so many digits at the front of a text, and the rest. -/
def number (width : Nat) (cs : List Char) : Option (Nat × List Char) :=
  let ds := cs.take width
  if ds.length = width ∧ ds.all Char.isDigit then some (natOfDigits ds, cs.drop width) else none

/-- The rest of a text after a character of the given ones. -/
def mark (marks : List Char) : List Char → Option (List Char)
  | c :: cs => if marks.contains c then some cs else none
  | [] => none

/-- A date `YYYY-MM-DD` at the front of a text. -/
def takeDate (cs : List Char) : Option (CivilDate × List Char) := do
  let (year, cs) ← number 4 cs
  let cs ← mark ['-'] cs
  let (month, cs) ← number 2 cs
  let cs ← mark ['-'] cs
  let (day, cs) ← number 2 cs
  let date : CivilDate := ⟨year, month, day⟩
  if date.valid then some (date, cs) else none

/-- The microseconds that the digits after the point write; digits after the
    sixth do not count. -/
def fraction (cs : List Char) : Option (Nat × List Char) :=
  let ds := cs.takeWhile Char.isDigit
  if ds.isEmpty then none
  else
    let six := (ds ++ List.replicate 6 '0').take 6
    some (natOfDigits six, cs.dropWhile Char.isDigit)

/-- The text is empty or an offset from UTC: `Z`, `+HH:MM` or `+HHMM`. -/
def isOffset : List Char → Bool
  | [] => true
  | [c] => c == 'Z' || c == 'z'
  | c :: cs =>
    (c == '+' || c == '-' || c == '\u2212') &&
      match number 2 cs with
      | none => false
      | some (hour, cs) =>
        match number 2 ((mark [':'] cs).getD cs) with
        | some (minute, []) => hour ≤ 23 && minute ≤ 59
        | _ => false

/-- A time `HH:MM`, `HH:MM:SS` or `HH:MM:SS.f`, as microseconds, at the front of
    a text. -/
def takeTime (cs : List Char) : Option (Nat × List Char) := do
  let (hour, cs) ← number 2 cs
  let cs ← mark [':'] cs
  let (minute, cs) ← number 2 cs
  if hour > 23 ∨ minute > 59 then none
  let minutes := hour * 60 + minute
  match mark [':'] cs with
  | none => some (minutes * 60000000, cs)
  | some cs => do
    let (second, cs) ← number 2 cs
    if second > 59 then none
    let micros := (minutes * 60 + second) * 1000000
    match mark ['.', ','] cs with
    | none => some (micros, cs)
    | some cs => do
      let (micro, cs) ← fraction cs
      some (micros + micro, cs)

/-- A date alone, which stands for its midnight, or a date, a separator, a time
    and an optional offset. -/
def parse (s : String) : Option Moment := do
  let (date, cs) ← takeDate s.toList
  match cs with
  | [] => some (ofFields date 0 0 0 0)
  | cs => do
    let cs ← mark ['T', 't', ' ', '_'] cs
    let (micros, cs) ← takeTime cs
    if isOffset cs then some ((ofFields date 0 0 0 0).later micros) else none

example : (parse "2024-02-29 23:59:59.5-11:30").map iso = some "2024-02-29T23:59:59.500000" := by
  decide +kernel
example : parse "2025-02-29" = none ∧ parse "2025-01-03T24:00:00" = none := by decide +kernel

end Moment

end ReviewRota
