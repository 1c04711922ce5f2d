/-
  ReviewRota — numbers in decimal notation.

  A written number stands for the nearest binary floating-point number, for an
  infinity, or for "not a number".  The digits count exactly, however many there
  are; only far beyond the reach of floating-point numbers, above `10^309` and
  below `10^-323`, the power alone decides.

  * `Quantity` is what is written;
  * `Quantity.ofParts` puts it together from its digits and its exponent, and
    `Quantity.parse` reads it;
  * `digitValue`, `natOfDigits`, `digitsIn` and `takeSign` read digits and signs.
-/
import ReviewRota.Binary

namespace ReviewRota

/-! ## Digits -/

/-- The value of a digit. -/
def digitValue (c : Char) : Nat := c.toNat - '0'.toNat

/-- The number that a list of digits writes. -/
def natOfDigits (cs : List Char) : Nat := cs.foldl (fun n c => 10 * n + digitValue c) 0

/-- The sign at the front of a text, and the rest. -/
def takeSign : List Char → Bool × List Char
  | '-' :: cs => (true, cs)
  | '+' :: cs => (false, cs)
  | cs => (false, cs)

/-! ## Quantities -/

/-- A number, an infinity, or "not a number". -/
inductive Quantity where
  | finite (value : Binary)
  | infinite (negative : Bool)
  | nan
  deriving DecidableEq, Repr

namespace Quantity

/-- The number nearest to a ratio, or the infinity beyond all numbers. -/
def ofRatio (negative : Bool) (num den : Nat) : Quantity :=
  match Binary.ofRatio? negative num den with
  | some b => finite b
  | none => infinite negative

/-- The number with the given sign, digits before and after the point, and
    exponent. -/
def ofParts (negative : Bool) (whole fraction : List Char) (exponent : Int) : Quantity :=
  let magnitude := natOfDigits (whole ++ fraction)
  let e := exponent - fraction.length
  let reach : Int := (toString magnitude).length + e
  if magnitude = 0 ∨ reach < -323 then finite ⟨negative, 0, Binary.leastExponent⟩
  else if 309 < reach then infinite negative
  else ofRatio negative (magnitude * Nat.pow 10 e.toNat) (Nat.pow 10 (-e).toNat)

/-- The exponent of a number: nothing, or `e` with an optional sign and digits. -/
def exponent? : List Char → Option Int
  | [] => some 0
  | c :: cs =>
    if c = 'e' ∨ c = 'E' then
      let (negative, ds) := takeSign cs
      if ds.isEmpty ∨ !ds.all Char.isDigit then none
      else some (if negative then -(natOfDigits ds : Int) else natOfDigits ds)
    else none

/-- A number in decimal notation: a sign, digits with or without a point among
    or beside them, an exponent; or `inf`, `infinity`, `nan` in any case. -/
def parse (cs : List Char) : Option Quantity :=
  let (negative, body) := takeSign cs
  let word := body.map Char.toLower
  if word = "inf".toList ∨ word = "infinity".toList then some (infinite negative)
  else if word = "nan".toList then some nan
  else
    let whole := body.takeWhile Char.isDigit
    let (fraction, rest) := match body.dropWhile Char.isDigit with
      | '.' :: r => (r.takeWhile Char.isDigit, r.dropWhile Char.isDigit)
      | r => ([], r)
    if whole.isEmpty ∧ fraction.isEmpty then none
    else (exponent? rest).map (ofParts negative whole fraction)

/-- The number by the fewest digits that read back; the words `inf` and `nan`. -/
def text : Quantity → String
  | finite b => b.text
  | infinite negative => if negative then "-inf" else "inf"
  | nan => "nan"

end Quantity

example : (Quantity.parse "+2.50".toList).map Quantity.text = some "2.5" ∧
    (Quantity.parse ".5e1".toList).map Quantity.text = some "5.0" ∧
    Quantity.parse "1e400".toList = some (.infinite false) ∧
    Quantity.parse ['.'] = none := by decide +kernel

end ReviewRota
