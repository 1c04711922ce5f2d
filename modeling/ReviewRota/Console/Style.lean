/-
  ReviewRota — console styles.

  A style is described by words: attributes, each perhaps behind `not`, a colour,
  a colour of the background behind `on`, and the target of a link behind `link`.
  Descriptions that mean the same have one normal form; a text that describes no
  style is its own, in small letters.  A colour may be given by three components, and
  where one of them is no number, not even that it is no style can be told.

  * `isColour` tells whether a word names a colour, and `ShadeFault` why it cannot;
  * `Style` is what a description says, and `Style.ofWords` reads one;
  * `Style.text` is the normal form, and `normalStyle` that of any text.
-/
import ReviewRota.Numeral
import ReviewRota.Text.Digit
import ReviewRota.Text.Lowercase

namespace ReviewRota.Console

/-! ## Colours -/

/-- The names of colours. -/
def colourNames : List String :=
  ["black", "red", "green", "yellow", "blue", "magenta", "cyan", "white", "bright_black",
    "bright_red", "bright_green", "bright_yellow", "bright_blue", "bright_magenta",
    "bright_cyan", "bright_white", "grey0", "gray0", "navy_blue", "dark_blue", "blue3", "blue1",
    "dark_green", "deep_sky_blue4", "dodger_blue3", "dodger_blue2", "green4", "spring_green4",
    "turquoise4", "deep_sky_blue3", "dodger_blue1", "green3", "spring_green3", "dark_cyan",
    "light_sea_green", "deep_sky_blue2", "deep_sky_blue1", "spring_green2", "cyan3",
    "dark_turquoise", "turquoise2", "green1", "spring_green1", "medium_spring_green", "cyan2",
    "cyan1", "dark_red", "deep_pink4", "purple4", "purple3", "blue_violet", "orange4", "grey37",
    "gray37", "medium_purple4", "slate_blue3", "royal_blue1", "chartreuse4", "dark_sea_green4",
    "pale_turquoise4", "steel_blue", "steel_blue3", "cornflower_blue", "chartreuse3",
    "cadet_blue", "sky_blue3", "steel_blue1", "pale_green3", "sea_green3", "aquamarine3",
    "medium_turquoise", "chartreuse2", "sea_green2", "sea_green1", "aquamarine1",
    "dark_slate_gray2", "dark_magenta", "dark_violet", "purple", "light_pink4", "plum4",
    "medium_purple3", "slate_blue1", "yellow4", "wheat4", "grey53", "gray53", "light_slate_grey",
    "light_slate_gray", "medium_purple", "light_slate_blue", "dark_olive_green3",
    "dark_sea_green", "light_sky_blue3", "sky_blue2", "dark_sea_green3", "dark_slate_gray3",
    "sky_blue1", "chartreuse1", "light_green", "pale_green1", "dark_slate_gray1", "red3",
    "medium_violet_red", "magenta3", "dark_orange3", "indian_red", "hot_pink3", "medium_orchid3",
    "medium_orchid", "medium_purple2", "dark_goldenrod", "light_salmon3", "rosy_brown", "grey63",
    "gray63", "medium_purple1", "gold3", "dark_khaki", "navajo_white3", "grey69", "gray69",
    "light_steel_blue3", "light_steel_blue", "yellow3", "dark_sea_green2", "light_cyan3",
    "light_sky_blue1", "green_yellow", "dark_olive_green2", "dark_sea_green1", "pale_turquoise1",
    "deep_pink3", "magenta2", "hot_pink2", "orchid", "medium_orchid1", "orange3", "light_pink3",
    "pink3", "plum3", "violet", "light_goldenrod3", "tan", "misty_rose3", "thistle3", "plum2",
    "khaki3", "light_goldenrod2", "light_yellow3", "grey84", "gray84", "light_steel_blue1",
    "yellow2", "dark_olive_green1", "honeydew2", "light_cyan1", "red1", "deep_pink2",
    "deep_pink1", "magenta1", "orange_red1", "indian_red1", "hot_pink", "dark_orange", "salmon1",
    "light_coral", "pale_violet_red1", "orchid2", "orchid1", "orange1", "sandy_brown",
    "light_salmon1", "light_pink1", "pink1", "plum1", "gold1", "navajo_white1", "misty_rose1",
    "thistle1", "yellow1", "light_goldenrod1", "khaki1", "wheat1", "cornsilk1", "grey100",
    "gray100", "grey3", "gray3", "grey7", "gray7", "grey11", "gray11", "grey15", "gray15",
    "grey19", "gray19", "grey23", "gray23", "grey27", "gray27", "grey30", "gray30", "grey35",
    "gray35", "grey39", "gray39", "grey42", "gray42", "grey46", "gray46", "grey50", "gray50",
    "grey54", "gray54", "grey58", "gray58", "grey62", "gray62", "grey66", "gray66", "grey70",
    "gray70", "grey74", "gray74", "grey78", "gray78", "grey82", "gray82", "grey85", "gray85",
    "grey89", "gray89", "grey93", "gray93"]

/-- Why a component of a colour is no number: it is missing, or has more digits than
    numbers may have. -/
inductive ShadeFault where
  | missing
  | overlong (digits : Nat)
  deriving DecidableEq, Repr

/-- What is told of such a component. -/
def ShadeFault.text : ShadeFault → String
  | missing => "invalid literal for int() with base 10: ''"
  | overlong digits =>
    "Exceeds the limit (4300 digits) for integer string conversion: value has " ++
      toString digits ++ " digits; use sys.set_int_max_str_digits() to increase the limit"

/-- The number that digits of any script write. -/
def shade (digits : List Char) : Except ShadeFault Nat :=
  if digits.isEmpty then .error .missing
  else if Numeral.mostDigits < digits.length then .error (.overlong digits.length)
  else .ok (digits.foldl (fun n c => 10 * n + (Text.digit? c).getD 0) 0)

/-- What stands in parentheses behind a word. -/
def inParentheses? (word : String) (cs : List Char) : Option (List Char) :=
  let opening := word.toList ++ ['(']
  if opening.isPrefixOf cs && cs.getLast? == some ')' then some (cs.drop opening.length).dropLast
  else none

/-- The text is a colour by its components, digits with commas between them: there
    are three of them, and none is too large. -/
def isMixed (cs : List Char) : Except ShadeFault Bool := do
  let components := cs.splitOn ','
  if cs.isEmpty || !cs.all (fun c => c == ',' || (Text.digit? c).isSome) then return false
  if components.length ≠ 3 then return false
  return (← components.mapM shade).all (· ≤ 255)

/-- The word, in small letters, names a colour: by name, by six hexadecimal digits,
    by its number or by its three components. -/
def isColour (word : String) : Except ShadeFault Bool :=
  match word.toList with
  | '#' :: digits =>
    return digits.length == 6 && digits.all fun c => c.isDigit || ('a' ≤ c && c ≤ 'f')
  | cs =>
    if word = "default" || colourNames.contains word then return true
    else if let some n := inParentheses? "color" cs then
      return !n.isEmpty && n.length ≤ 3 && n.all Char.isDigit && natOfDigits n ≤ 255
    else if let some ns := inParentheses? "rgb" cs then isMixed ns
    else return false

/-! ## Styles -/

/-- The attributes, in the order in which a normal form names them. -/
def attributes : List String :=
  ["bold", "dim", "italic", "underline", "blink", "blink2", "reverse", "conceal", "strike",
    "underline2", "frame", "encircle", "overline"]

/-- The short names of attributes. -/
def shortAttributes : List (String × String) :=
  [("b", "bold"), ("d", "dim"), ("i", "italic"), ("u", "underline"), ("r", "reverse"),
    ("c", "conceal"), ("s", "strike"), ("uu", "underline2"), ("o", "overline")]

/-- The attribute of a word. -/
def attribute? (word : String) : Option String :=
  if attributes.contains word then some word else shortAttributes.lookup word

/-- What a description says: the attributes that it sets or unsets, the colours and
    the link. -/
structure Style where
  attributes : List (String × Bool) := []
  colour : Option String := none
  ground : Option String := none
  link : Option String := none
  deriving DecidableEq, Repr

namespace Style

/-- The style with an attribute set or unset. -/
def setting (s : Style) (name : String) (isOn : Bool) : Style :=
  { s with attributes := (name, isOn) :: s.attributes }

/-- A word in small letters. -/
def small (word : String) : String := String.ofList (Text.lowered word.toList)

/-- The style that the words describe, if they do, on top of another.  They are read
    one after another, up to the first that does not fit. -/
def ofWordsOver (s : Style) : List String → Except ShadeFault (Option Style)
  | [] => return some s
  | word :: words =>
    match small word, words with
    | "on", ground :: words => do
      if ← isColour (small ground) then
        ofWordsOver { s with ground := some (small ground) } words
      else return none
    | "not", name :: words =>
      match attribute? name with
      | some a => ofWordsOver (s.setting a false) words
      | none => return none
    | "link", target :: words => ofWordsOver { s with link := some target } words
    | word, words =>
      match attribute? word with
      | some a => ofWordsOver (s.setting a true) words
      | none => do
        if ← isColour word then ofWordsOver { s with colour := some word } words
        else return none

/-- The style that the words describe, if they do. -/
def ofWords (words : List String) : Except ShadeFault (Option Style) :=
  if words = ["none"] then return some {} else ofWordsOver {} words

/-- The style of a description. -/
def parse (cs : List Char) : Except ShadeFault (Option Style) :=
  ofWords ((Text.words cs).map String.ofList)

/-- The normal form of a style: its attributes in order, the colours and the link,
    or `none`. -/
def text (s : Style) : String :=
  let named := Console.attributes.filterMap fun a =>
    (s.attributes.lookup a).map fun isOn => if isOn then a else "not " ++ a
  let words := named ++ s.colour.toList ++ (s.ground.map ("on " ++ ·)).toList ++
    (s.link.map ("link " ++ ·)).toList
  if words.isEmpty then "none" else " ".intercalate words

end Style

/-- The normal form of a description. -/
def normalStyle (cs : List Char) : Except ShadeFault String := do
  match ← Style.parse cs with
  | some s => return s.text
  | none => return String.ofList (Text.lowered (Text.trimEnds Text.isBlank cs))

example : (normalStyle "RED  b".toList).toOption = some "bold red" ∧
    (normalStyle "not b on #00ff00".toList).toOption = some "not bold on #00ff00" ∧
    (normalStyle " not X rgb(,,)".toList).toOption = some "not x rgb(,,)" := by decide +kernel
example : (normalStyle "on rgb(1,2,)".toList).toOption = none ∧
    (normalStyle "rgb(1,256,3)".toList).toOption = some "rgb(1,256,3)" := by decide +kernel

end ReviewRota.Console
