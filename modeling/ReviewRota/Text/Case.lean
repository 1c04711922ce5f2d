/-
  ReviewRota — letter case.

  Names are compared without regard to case in two ways.  Most comparisons know
  the 26 letters of ASCII only.  A comparison in capitals also meets the two
  letters outside ASCII whose capital lies inside it: `ı` (`U+0131`) and `ſ`
  (`U+017F`).

  * `lower` is the text with the letters of ASCII in lower case;
  * `capitals` is the text in capitals, `ı` and `ſ` included;
  * `sameLetters` compares two texts without regard to the case of ASCII.
-/
namespace ReviewRota.Text

/-- The text with the letters `A` to `Z` in lower case. -/
def lower (s : String) : String := String.ofList (s.toList.map Char.toLower)

/-- The capital of a letter of ASCII, of `ı` and of `ſ`. -/
def capital (c : Char) : Char :=
  if c = '\u0131' then 'I' else if c = '\u017F' then 'S' else c.toUpper

/-- The text in capitals. -/
def capitals (s : String) : String := String.ofList (s.toList.map capital)

/-- The two texts differ at most in the case of letters of ASCII. -/
def sameLetters (s t : String) : Bool := lower s == lower t

end ReviewRota.Text
