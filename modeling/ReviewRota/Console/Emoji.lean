/-
  ReviewRota — emoji by name.

  A text may call for an emoji by its name between colons: `:bug:`.  The name is in
  any case and holds no blanks; `-emoji` or `-text` behind it asks for the coloured
  or the plain look.  A name that stands for no emoji is text.

  * `emojiNamed?` is the emoji of a name;
  * `Call` is such a name with the look, and `takeCall?` reads one;
  * `withEmoji` is a text with its emoji.
-/
import ReviewRota.Console.Emoji.Names
import ReviewRota.Text.Blank
import ReviewRota.Text.Lowercase

namespace ReviewRota.Console

/-! ## Names -/

/-- The word behind the given one, in a list of names and emoji in turn. -/
def wordBehind (name : List Char) : List (List Char) → Option (List Char)
  | n :: e :: ws => if n == name then some e else wordBehind name ws
  | _ => none

/-- The emoji of a name. -/
def emojiNamed? (name : List Char) : Option (List Char) :=
  namedEmoji.findSome? fun row => wordBehind name (row.toList.splitOn ' ')

/-! ## Calls -/

/-- The looks of an emoji, by name, with the characters that ask for them. -/
def looks : List (List Char × Char) := [("emoji".toList, '\uFE0F'), ("text".toList, '\uFE0E')]

/-- A name between colons, and the look that is asked for. -/
structure Call where
  name : List Char
  look : Option (List Char × Char) := none

/-- The call as it is written. -/
def Call.written (c : Call) : List Char :=
  [':'] ++ c.name ++ (match c.look with | some l => '-' :: l.1 | none => []) ++ [':']

/-- What a call stands for. -/
def Call.text (c : Call) : List Char :=
  match emojiNamed? (Text.lowered c.name) with
  | some emoji => emoji ++ (c.look.map Prod.snd).toList
  | none => c.written

/-- A look at the end of a call, and the text behind the call. -/
def takeLook? (cs : List Char) : Option ((List Char × Char) × List Char) :=
  looks.findSome? fun l =>
    let ending := '-' :: (l.1 ++ [':'])
    if ending.isPrefixOf cs then some (l, cs.drop ending.length) else none

/-- The call whose first colon has been read, and the text behind it. -/
def takeCall? : List Char → Option (Call × List Char)
  | [] => none
  | c :: cs =>
    match takeLook? (c :: cs) with
    | some (look, rest) => some ({ name := [], look }, rest)
    | none =>
      if c = ':' then some ({ name := [] }, cs)
      else if Text.isBlank c then none
      else (takeCall? cs).map fun t => ({ t.1 with name := c :: t.1.name }, t.2)

/-- The text with its emoji.  The first argument bounds its length. -/
def withEmojiWithin : Nat → List Char → List Char
  | n + 1, ':' :: cs =>
    match takeCall? cs with
    | some (call, rest) => call.text ++ withEmojiWithin n rest
    | none => ':' :: withEmojiWithin n cs
  | n + 1, c :: cs => c :: withEmojiWithin n cs
  | _, cs => cs

/-- The text with its emoji. -/
def withEmoji (cs : List Char) : List Char := withEmojiWithin cs.length cs

example : withEmoji "a: b:c d".toList = "a: b:c d".toList := by decide +kernel

end ReviewRota.Console
