/-
  ReviewRota — binary floating-point numbers.

  A number with a fraction or an exponent is kept as the nearest 64-bit
  floating-point number: a sign, a significand below `2^53` and a power of two not
  below `2^-1074`.  All arithmetic on it is exact, on ratios of natural numbers,
  and rounded once, a tie going to the even neighbour.

  * `Binary` is the number; its significand is at least `2^52` unless the power
    is the least one, so that every value has one form of either sign;
  * `Binary.ofRatio?` is the number nearest to a ratio, none if that is too great;
  * `Binary.compare` orders a number against an integer, `Binary.toInt?` is its
    value where that is an integer;
  * `Binary.micros` is the number of seconds in whole microseconds;
  * `Binary.digits` are the fewest decimal digits that read back as the number,
    `Binary.text` writes them, and `halfEven_mul` says that rounding keeps what
    needs no rounding.
-/
namespace ReviewRota

/-- The natural number nearest to a ratio; a tie goes to the even one. -/
def halfEven (num den : Nat) : Nat :=
  let down := num / den
  let twice := 2 * (num % den)
  if twice < den then down else if twice = den then down + down % 2 else down + 1

theorem halfEven_mul (n : Nat) {den : Nat} (h : 0 < den) : halfEven (n * den) den = n := by
  simp [halfEven, h]

/-- The number `±significand · 2^exponent`. -/
structure Binary where
  negative : Bool := false
  significand : Nat
  exponent : Int
  deriving DecidableEq, Repr

namespace Binary

/-! ## Rounding -/

/-- The bound of all significands. -/
def limit : Nat := Nat.pow 2 53

/-- The least exponent. -/
def leastExponent : Int := -1074

/-- The greatest exponent. -/
def greatestExponent : Int := 971

/-- Zero. -/
def zero : Binary := ⟨false, 0, leastExponent⟩

instance : Inhabited Binary := ⟨zero⟩

/-- The power of two that is at most the ratio of two positive numbers, while its
    double is more. -/
def scaleOf (num den : Nat) : Int :=
  let e : Int := (num.log2 : Int) - den.log2
  if den * Nat.pow 2 e.toNat ≤ num * Nat.pow 2 (-e).toNat then e else e - 1

/-- The number nearest to a ratio, of the given sign; none if that is beyond the
    greatest number. -/
def ofRatio? (negative : Bool) (num den : Nat) : Option Binary :=
  if num = 0 then some ⟨negative, 0, leastExponent⟩
  else
    let e := max (scaleOf num den - 52) leastExponent
    let m := halfEven (num * Nat.pow 2 (-e).toNat) (den * Nat.pow 2 e.toNat)
    let (m, e) := if m = limit then (limit / 2, e + 1) else (m, e)
    if greatestExponent < e then none else some ⟨negative, m, e⟩

/-- The number nearest to an integer. -/
def ofInt? (n : Int) : Option Binary := ofRatio? (n < 0) n.natAbs 1

/-- A small integer. -/
def ofNat (n : Nat) : Binary := (ofRatio? false n 1).getD zero

/-! ## Values -/

/-- The numerator of the magnitude. -/
def num (b : Binary) : Nat := b.significand * Nat.pow 2 b.exponent.toNat

/-- The denominator of the magnitude. -/
def den (b : Binary) : Nat := Nat.pow 2 (-b.exponent).toNat

/-- The number is zero, of either sign. -/
def isZero (b : Binary) : Bool := b.significand == 0

/-- The order of the number and an integer. -/
def compare (b : Binary) (n : Int) : Ordering :=
  Ord.compare (if b.negative then -(b.num : Int) else b.num) (n * b.den)

/-- The value, if it is an integer. -/
def toInt? (b : Binary) : Option Int :=
  if b.num % b.den = 0 then
    let n : Int := (b.num / b.den : Nat)
    some (if b.negative then -n else n)
  else none

/-- The greatest integer that is not greater. -/
def floor (b : Binary) : Int :=
  let n : Int := if b.negative then -(b.num : Int) else b.num
  n / (b.den : Int)

/-- The nearest number to the sum of two numbers that are not negative. -/
def plus (a b : Binary) : Binary :=
  (ofRatio? false (a.num * b.den + b.num * a.den) (a.den * b.den)).getD a

/-- The nearest number to a ratio of the number, of the same sign. -/
def scaled (b : Binary) (up down : Nat) : Binary :=
  (ofRatio? b.negative (b.num * up) (b.den * down)).getD b

/-- The part behind the point, without a sign. -/
def fraction (b : Binary) : Binary := (ofRatio? false (b.num % b.den) b.den).getD zero

/-- So many seconds in microseconds: the whole seconds, and the rounded product
    of the rest, to the nearest one. -/
def micros (b : Binary) : Int :=
  let rest := b.fraction.scaled 1000000 1
  let n : Int := (b.num / b.den * 1000000 + halfEven rest.num rest.den : Nat)
  if b.negative then -n else n

/-! ## Text -/

/-- The power of ten that is at most a positive ratio, while its tenfold is
    more. -/
def decimalScale (num den : Nat) : Int :=
  if den ≤ num then ((toString (num / den)).length : Int) - 1
  else
    let places := (toString (den / num)).length
    if den ≤ num * Nat.pow 10 (places - 1) then 1 - (places : Int) else -(places : Int)

/-- The bounds of the values that are read as the number, as numerators over one
    denominator, which comes last.  The lower gap is half as wide at a power of
    two. -/
def readBack (b : Binary) : Nat × Nat × Nat :=
  let atPower := b.significand = limit / 2 && b.exponent ≠ leastExponent
  let half := Nat.pow 2 b.exponent.toNat
  (4 * b.num - (if atPower then half else 2 * half), 4 * b.num + 2 * half, 4 * b.den)

/-- The multiple of `10^place` that is nearest to the number among its two
    neighbours that read back, if one does. -/
def onGrid (b : Binary) (place : Int) : Option Nat :=
  let up := Nat.pow 10 (-place).toNat
  let unit := Nat.pow 10 place.toNat
  let (low, high, den) := b.readBack
  let closed := b.significand % 2 = 0
  let readsBack (k : Nat) : Bool :=
    let v := k * unit * den
    if closed then low * up ≤ v && v ≤ high * up else low * up < v && v < high * up
  let down := b.num * up / (b.den * unit)
  let near := halfEven (b.num * up) (b.den * unit)
  if readsBack near then some near
  else if readsBack down then some down
  else if readsBack (down + 1) then some (down + 1)
  else none

/-- The fewest digits that read back, as a number, and their power of ten; the
    search begins with the given place, and goes on for so many more. -/
def digitsFrom (b : Binary) : Nat → Int → Nat × Int
  | 0, place =>
    (halfEven (b.num * Nat.pow 10 (-place).toNat) (b.den * Nat.pow 10 place.toNat), place)
  | n + 1, place =>
    match b.onGrid place with
    | some k => (k, place)
    | none => b.digitsFrom n (place - 1)

/-- The digits of a number without the zeros at its end, whose count raises the
    power of ten. -/
def withoutZeros (digits : List Char) (place : Int) : List Char × Int :=
  let kept := (digits.reverse.dropWhile (· == '0')).reverse
  (kept, place + (digits.length - kept.length : Nat))

/-- The fewest digits that read back as a number other than zero, and the power
    of ten of the last one. -/
def digits (b : Binary) : List Char × Int :=
  let (k, place) := b.digitsFrom 16 (decimalScale b.num b.den)
  withoutZeros (toString k).toList place

/-- An exponent: a sign and at least two digits. -/
def exponentText (e : Int) : String :=
  let digits := toString e.natAbs
  "e" ++ (if e < 0 then "-" else "+") ++ (if digits.length < 2 then "0" else "") ++ digits

/-- The magnitude: positional from `10^-4` to `10^16`, with at least one digit on
    both sides of the point; otherwise with one digit before the point, and an
    exponent. -/
def magnitudeText (b : Binary) : String :=
  if b.isZero then "0.0"
  else
    let (ds, place) := b.digits
    let point : Int := ds.length + place
    if -4 < point ∧ point ≤ 16 then
      if point ≤ 0 then
        "0." ++ String.ofList (List.replicate (-point).toNat '0' ++ ds)
      else
        let whole := ds.take point.toNat ++ List.replicate (point.toNat - ds.length) '0'
        let rest := ds.drop point.toNat
        String.ofList whole ++ "." ++ String.ofList (if rest.isEmpty then ['0'] else rest)
    else
      let rest := ds.drop 1
      String.ofList (ds.take 1 ++ (if rest.isEmpty then [] else '.' :: rest)) ++
        exponentText (point - 1)

/-- The number, by the fewest digits that read back. -/
def text (b : Binary) : String := (if b.negative then "-" else "") ++ b.magnitudeText

example : (ofRatio? false 1 10).map text = some "0.1" ∧ (ofRatio? true 5 2).map text = some "-2.5" ∧
    (ofRatio? false (10 ^ 16) 1).map text = some "1e+16" ∧
    (ofRatio? false 1 (3 * 10 ^ 5)).map text = some "3.3333333333333333e-06" := by decide +kernel
example : ofRatio? false 3 (10 ^ 324) = some ⟨false, 1, leastExponent⟩ ∧
    ofRatio? false 2 (10 ^ 324) = some zero ∧ ofRatio? false (2 ^ 1024) 1 = none := by
  decide +kernel
example : (ofNat 3).toInt? = some 3 ∧ (ofNat 3).compare 3 = .eq := by decide +kernel

end Binary

end ReviewRota
