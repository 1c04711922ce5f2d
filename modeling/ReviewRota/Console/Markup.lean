/-
  ReviewRota — console markup.

  Text for a console may hold tags in square brackets that set a style: `[bold]`
  begins one, `[/bold]` ends it, and `[/]` ends the one begun last.  A style that
  is never ended is ended with the text.  A tag begins with a lower-case letter
  of ASCII, `#`, `/` or `@`; any other bracket is text.  A backslash before a tag
  makes text of it, and two backslashes before a tag stand for one.

  * `Piece` is a stretch of text or a tag, and `pieces` cuts a text into them;
  * `Tagging` tells how a console reads the styles and the handlers in tags, and
    `Tagging.usual` is the way in which it does;
  * `Marked` is what remains to be read when every tag has had its effect and every
    emoji that is called for has its place, with the stretches under each style; and
    `marked` is a text so;
  * `TagFault` says which tag cannot have its effect: an end that ends nothing, the
    end of a tag whose handler cannot be read, or a tag with a colour that cannot be;
    `TagFault.text` tells of it.
-/
import ReviewRota.Console.Emoji
import ReviewRota.Console.Handler
import ReviewRota.Console.Style

namespace ReviewRota.Console

/-! ## Pieces -/

/-- A tag: its name, and what follows an equals sign. -/
structure Tag where
  name : List Char
  parameters : Option (List Char) := none
  deriving DecidableEq, Repr

/-- The tag as it is written. -/
def Tag.written (t : Tag) : String :=
  String.ofList (['['] ++ t.name ++
    (match t.parameters with
      | some p => '=' :: p
      | none => []) ++ [']'])

/-- The tag with the given inside. -/
def Tag.ofInside (cs : List Char) : Tag :=
  ⟨cs.takeWhile (· != '='), (cs.dropWhile (· != '=')).tail?⟩

/-- A stretch of text, or a tag with its place in the whole text. -/
inductive Piece where
  | text (cs : List Char)
  | tag (place : Nat) (t : Tag)
  deriving DecidableEq, Repr

/-- The character may stand at the beginning of a tag. -/
def opensTag (c : Char) : Bool :=
  ('a' ≤ c && c ≤ 'z') || c == '#' || c == '/' || c == '@'

/-- The inside of a tag whose opening bracket has been read, and the text behind
    the tag. -/
def tagInside? (cs : List Char) : Option (List Char × List Char) :=
  let inside := cs.takeWhile fun c => c != '[' && c != ']'
  match inside, cs.drop inside.length with
  | c :: _, ']' :: rest => if opensTag c then some (inside, rest) else none
  | _, _ => none

/-- A stretch of text without the backslash before each bracket. -/
def unescaped : List Char → List Char
  | '\\' :: '[' :: cs => '[' :: unescaped cs
  | c :: cs => c :: unescaped cs
  | [] => []

/-- A stretch of text that was read backwards. -/
def stretch (read : List Char) : List Piece :=
  if read.isEmpty then [] else [.text (unescaped read.reverse)]

/-- A tag behind so many backslashes: half of them stay, and an odd one makes
    text of the tag. -/
def behindSlashes (slashes place : Nat) (inside : List Char) : List Piece :=
  stretch (List.replicate (slashes / 2) '\\') ++
    [if slashes % 2 = 1 then .text (['['] ++ inside ++ [']'])
      else .tag (place + slashes) (Tag.ofInside inside)]

/-- The pieces of a text that begins at the given place, behind what was read of a
    stretch, backwards.  The first argument bounds their number. -/
def piecesFrom : Nat → Nat → List Char → List Char → List Piece
  | 0, _, read, _ => stretch read
  | n + 1, place, read, cs =>
    let slashes := cs.takeWhile (· == '\\')
    match cs.drop slashes.length with
    | [] => stretch (slashes ++ read)
    | '[' :: r =>
      match tagInside? r with
      | some (inside, rest) =>
        stretch read ++ behindSlashes slashes.length place inside ++
          piecesFrom n (place + slashes.length + inside.length + 2) [] rest
      | none => piecesFrom n (place + slashes.length + 1) ('[' :: (slashes ++ read)) r
    | c :: r => piecesFrom n (place + slashes.length + 1) (c :: (slashes ++ read)) r

/-- The pieces of a text. -/
def pieces (cs : List Char) : List Piece := piecesFrom (cs.length + 1) 0 [] cs

/-! ## Faults -/

/-- A tag that cannot have its effect. -/
inductive TagFault where
  | unopened (tag : String) (place : Nat)
  | nothingOpen (place : Nat)
  | handler (complaint : String)
  | shade (fault : ShadeFault)
  deriving DecidableEq, Repr

/-- What is told of a fault. -/
def TagFault.text : TagFault → String
  | unopened tag place =>
    "closing tag '" ++ tag ++ "' at position " ++ toString place ++ " doesn't match any open tag"
  | nothingOpen place =>
    "closing tag '[/]' at position " ++ toString place ++ " has nothing to close"
  | handler complaint => complaint
  | shade fault => fault.text

/-- How a console reads what stands in tags: the normal form of the style that a tag names,
    what is wrong with the handler of an event, and what is wrong with a style in which
    text is drawn. -/
structure Tagging where
  normal : List Char → Except TagFault String
  handlerFault? : List Char → Option TagFault
  styleFault? : String → Option TagFault

/-- The way in which a console reads styles and handlers.  A style that means nothing is
    drawn as if there were none. -/
def Tagging.usual : Tagging where
  normal cs := (normalStyle cs).mapError .shade
  handlerFault? cs := (handlerObjection? cs).map .handler
  styleFault? style :=
    match Style.parse style.toList with
    | .ok _ => none
    | .error fault => some (.shade fault)

instance : Inhabited Tagging := ⟨.usual⟩

/-! ## Styles -/

/-- A style that is open: where in the text it begins, its name and its parameters. -/
structure OpenStyle where
  start : Nat
  style : String
  parameters : Option (List Char) := none
  deriving DecidableEq, Repr

/-- The style names an event. -/
def OpenStyle.isEvent (s : OpenStyle) : Bool := s.style.toList.head? == some '@'

/-- A stretch of a text and its style. -/
structure Span where
  start : Nat
  stop : Nat
  style : String
  deriving DecidableEq, Repr

/-- The stretch that ends at the given place; parameters belong to the style. -/
def OpenStyle.upTo (s : OpenStyle) (stop : Nat) : Span :=
  ⟨s.start, stop, s.style ++
    (match s.parameters with
      | some p => " " ++ String.ofList p
      | none => "")⟩

/-- The character has no effect but on the console itself: bell, backspace,
    vertical tab, form feed, carriage return. -/
def isConsoleControl (c : Char) : Bool :=
  c.toNat == 7 || c.toNat == 8 || (0xB ≤ c.toNat && c.toNat ≤ 0xD)

/-- A text whose tags have had their effect so far: what remains to be read, the
    stretches with a style, and the styles that are open, the last one first. -/
structure Marked where
  text : List Char := []
  spans : List Span := []
  styles : List OpenStyle := []
  deriving DecidableEq, Repr

namespace Marked

/-- The text with more behind it. -/
def append (m : Marked) (cs : List Char) : Marked :=
  { m with text := m.text ++ (withEmoji cs).filter (!isConsoleControl ·) }

/-- The style begins. -/
def opening (m : Marked) (style : String) (parameters : Option (List Char)) : Marked :=
  { m with styles := ⟨m.text.length, style, parameters⟩ :: m.styles }

/-- The style, which is open, ends.  That of an event has no look, but its handler, if it
    has one, is read now. -/
def ending (k : Tagging) (m : Marked) (s : OpenStyle) : Except TagFault Marked :=
  let rest := m.styles.erase s
  if s.isEvent then
    match (s.parameters.filter (!·.isEmpty)).bind k.handlerFault? with
    | some fault => .error fault
    | none => .ok { m with styles := rest }
  else .ok { m with styles := rest, spans := s.upTo m.text.length :: m.spans }

/-- A tag at the given place that ends the style with the name, or the last one. -/
def closing (k : Tagging) (m : Marked) (place : Nat) (t : Tag) (name : List Char) :
    Except TagFault Marked :=
  if name.all Text.isBlank then
    match m.styles with
    | s :: _ => m.ending k s
    | [] => .error (.nothingOpen place)
  else do
    let style ← k.normal (Text.trimEnds Text.isBlank name)
    match m.styles.find? (·.style = style) with
    | some s => m.ending k s
    | none => throw (.unopened t.written place)

/-- The next piece. -/
def step (k : Tagging) (m : Marked) : Piece → Except TagFault Marked
  | .text cs => return m.append cs
  | .tag place t =>
    match t.name with
    | '/' :: name => m.closing k place t name
    | name => do return m.opening (← k.normal name) t.parameters

/-- The text at its end, where all styles end that are still open. -/
def finished (m : Marked) : Marked :=
  { m with spans := (m.styles.map (·.upTo m.text.length)).reverse ++ m.spans, styles := [] }

end Marked

/-- The text without its tags and with its emoji. -/
def marked (k : Tagging) (s : String) : Except TagFault Marked := do
  return (← (pieces s.toList).foldlM (Marked.step k) {}).finished

example : (marked .usual "[bold]ID:[/bold] p[1] \\[b] [X]").toOption.map Marked.text =
    some "ID: p[1] [b] [X]".toList := by decide +kernel
example : (marked .usual "[red]a [b=on blue]c[/red] d").toOption =
    some ⟨"a c d".toList, [⟨2, 5, "bold on blue"⟩, ⟨0, 3, "red"⟩], []⟩ := by decide +kernel
example : (marked .usual "a [/x]").toOption = none ∧
    (marked .usual "a [rgb(,,)]").toOption = none := by decide +kernel

end ReviewRota.Console
