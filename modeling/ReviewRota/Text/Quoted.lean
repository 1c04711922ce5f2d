/-
  ReviewRota — quoted text.

  A complaint shows the text that it is about in quotes: single ones, or double
  ones around a text that holds a single quote and no double one.  The quote and
  the backslash are written with a backslash, and characters that are not
  printable by their code, with as few as two, four or eight digits.

  * `quoted` is the text in quotes, `escaped` one character of it;
  * `quotedPoints` is the same of a list of code points, which may hold halves of
    surrogate pairs.
-/
import ReviewRota.Text.Encoding
import ReviewRota.Text.Printable

namespace ReviewRota.Text

/-- The hexadecimal digit of a number below 16. -/
def hexDigit (n : Nat) : Char := if n < 10 then Char.ofNat (48 + n) else Char.ofNat (87 + n)

/-- The number in so many hexadecimal digits. -/
def hexDigits : Nat → Nat → List Char
  | 0, _ => []
  | width + 1, n => hexDigits width (n / 16) ++ [hexDigit (n % 16)]

/-- A code point by its code. -/
def byCode (n : Nat) : List Char :=
  if n < 0x100 then '\\' :: 'x' :: hexDigits 2 n
  else if n < 0x10000 then '\\' :: 'u' :: hexDigits 4 n
  else '\\' :: 'U' :: hexDigits 8 n

/-- A character between quotes of the given kind. -/
def escaped (quote c : Char) : List Char :=
  if c = quote ∨ c = '\\' then ['\\', c]
  else if c = '\n' then ['\\', 'n']
  else if c = '\r' then ['\\', 'r']
  else if c = '\t' then ['\\', 't']
  else if isPrintable c then [c]
  else byCode c.toNat

/-- The kind of quotes that fits around the characters. -/
def quoteFor (cs : List Char) : Char := if cs.contains '\'' ∧ !cs.contains '"' then '"' else '\''

/-- The text in quotes. -/
def quoted (s : String) : String :=
  let quote := quoteFor s.toList
  String.ofList (quote :: (s.toList.flatMap (escaped quote) ++ [quote]))

/-- The code points in quotes. -/
def quotedPoints (ps : List Point) : String :=
  let quote := quoteFor (ps.filterMap Point.char?)
  let one : Point → List Char
    | .char c => escaped quote c
    | .half n => byCode n
  String.ofList (quote :: (ps.flatMap one ++ [quote]))

example : quoted "X" = "'X'" ∧ quoted "it's" = "\"it's\"" ∧ quoted "a\nb\u2028" = "'a\\nb\\u2028'" := by
  decide +kernel
example : quotedPoints [.char 'a', .half 0xD800] = "'a\\ud800'" := by decide +kernel

end ReviewRota.Text
