/-
  ReviewRota — numerals.

  How callers write numbers in texts.  An integer may have a plus sign, zeros in
  front of it, a fraction of zeros, and underscores between its digits; a number
  may be in any decimal notation, and hold underscores apart from each other.

  * `Numeral.integer` reads an integer, or says that it is too long or none;
  * `Numeral.quantity?` reads a number;
  * `withoutMarks?` removes underscores.
-/
import ReviewRota.Quantity
import ReviewRota.Text.Blank

namespace ReviewRota.Numeral

/-! ## Underscores -/

/-- Two underscores stand next to each other. -/
def hasDoubleMark : List Char → Bool
  | '_' :: '_' :: _ => true
  | _ :: cs => hasDoubleMark cs
  | [] => false

/-- The text without its underscores, unless one stands at an end or next to
    another. -/
def withoutMarks? (cs : List Char) : Option (List Char) :=
  if cs.head? = some '_' ∨ cs.getLast? = some '_' ∨ hasDoubleMark cs then none
  else some (cs.filter (· != '_'))

/-! ## Integers -/

/-- The text without one plus sign at its front. -/
def withoutPlus : List Char → List Char
  | '+' :: '-' :: cs => '+' :: '-' :: cs
  | '+' :: cs => cs
  | cs => cs

/-- The character may stand among the zeros in front of a numeral. -/
def isFiller (c : Char) : Bool := c == '0' || c == '_'

/-- The text from its first digit other than zero on; the last zero stays where no
    such digit follows. -/
def withoutFillers : List Char → Option (List Char)
  | '0' :: cs =>
    let filler := cs.takeWhile isFiller
    match cs.dropWhile isFiller with
    | [] => some [filler.getLastD '0']
    | '.' :: rest => some (filler.getLastD '0' :: '.' :: rest)
    | c :: rest => if c.isDigit then some (c :: rest) else none
  | c :: cs => if c == '-' || c.isDigit then some (c :: cs) else none
  | [] => none

/-- The text without a fraction of zeros. -/
def withoutFraction (cs : List Char) : List Char :=
  match cs.dropWhile (· != '.') with
  | '.' :: zeros =>
    if !zeros.isEmpty && zeros.all (· == '0') then cs.takeWhile (· != '.') else cs
  | _ => cs

/-- The plain form of an integer: an optional minus sign and digits, the first one
    zero only if it stands alone. -/
def plain? (cs : List Char) : Option (Bool × List Char) :=
  let (negative, ds) := match cs with
    | '-' :: r => (true, r)
    | r => (false, r)
  match ds with
  | [] => none
  | '0' :: _ :: _ => none
  | ds => if ds.all Char.isDigit then some (negative, ds) else none

/-- What a text turns out to be that should write an integer. -/
inductive Outcome where
  | integer (n : Int)
  | overlong
  | unreadable
  deriving DecidableEq, Repr

/-- The most digits of an integer. -/
def mostDigits : Nat := 4300

/-- The integer in plain form. -/
def ofPlain (cs : List Char) : Outcome :=
  match plain? cs with
  | none => .unreadable
  | some (negative, ds) =>
    if mostDigits < ds.length then .overlong
    else .integer (if negative then -(natOfDigits ds : Int) else natOfDigits ds)

/-- The plain form of a lenient one. -/
def simplified (cs : List Char) : Option (List Char) :=
  ((withoutFillers (withoutPlus cs)).map withoutFraction).bind withoutMarks?

/-- The integer that a text writes, white space around it left aside. -/
def integer (s : String) : Outcome :=
  let cs := Text.trimEnds Text.isSpace s.toList
  match ofPlain cs with
  | .unreadable => ((simplified cs).map ofPlain).getD .unreadable
  | found => found

/-! ## Numbers -/

/-- The number that a text writes: as it stands with white space around it, or
    without it once the underscores are removed. -/
def quantity? (s : String) : Option Quantity :=
  match Quantity.parse (Text.trimEnds Text.isSpace s.toList) with
  | some q => some q
  | none => (withoutMarks? s.toList).bind Quantity.parse

example : integer " +0_07.0 " = .integer 7 ∧ integer "0__1" = .integer 1 ∧ integer "1__0" = .unreadable ∧
    integer "7." = .unreadable ∧ integer "-0" = .integer 0 ∧ integer "0_" = .unreadable := by decide +kernel
example : (quantity? "1_.5").map Quantity.text = some "1.5" ∧ (quantity? " 1e1").isSome ∧
    (quantity? "1_0 ").isNone ∧ quantity? "in_f" = some (.infinite false) := by decide +kernel

end ReviewRota.Numeral
