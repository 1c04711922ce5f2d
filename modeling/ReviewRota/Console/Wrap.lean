/-
  ReviewRota — lines of a given width.

  A text is broken into lines between its words where the next word would not fit;
  the blanks behind a word stay on its line.  A word that is wider than a line is
  cut into pieces, or stands on a line of its own that is cut short, with a mark at
  its end.

  * `spacedWords` are the words of a text with the blanks around them;
  * `Breaking` is a text that is being broken, and `Breaking.lines` are the lines of
    a text;
  * `Layout` says how the lines of a text are drawn, and `Layout.lines` are the lines:
    `Layout.whole` leaves them as they are, `Layout.folded` cuts wide words into pieces,
    and `Layout.shortened` cuts them short.
-/
import ReviewRota.Console.Cluster
import ReviewRota.Text.Blank

namespace ReviewRota.Console

/-! ## Words -/

/-- The words of a text, each with the blanks behind it, and the first one with
    those before it.  The first argument bounds their number. -/
def spacedWordsWithin : Nat → List Char → List (List Char)
  | 0, _ => []
  | n + 1, cs =>
    let blanks := cs.takeWhile Text.isBlank
    let cs := cs.dropWhile Text.isBlank
    match cs.takeWhile (!Text.isBlank ·) with
    | [] => []
    | letters =>
      let behind := cs.dropWhile (!Text.isBlank ·)
      (blanks ++ letters ++ behind.takeWhile Text.isBlank) ::
        spacedWordsWithin n (behind.dropWhile Text.isBlank)

/-- The words of a text with the blanks around them. -/
def spacedWords (cs : List Char) : List (List Char) := spacedWordsWithin (cs.length + 1) cs

/-- The text without the blanks at its end. -/
def withoutTail (cs : List Char) : List Char := (cs.reverse.dropWhile Text.isBlank).reverse

/-- The pieces of a word, given by its clusters, that fit into lines of the given
    width, behind a piece that is begun and takes so many cells. -/
def chopped (width : Nat) : List Char → Nat → List Cluster → List (List Char)
  | piece, _, [] => [piece]
  | piece, used, k :: ks =>
    if width < used + k.cells then piece :: chopped width k.chars k.cells ks
    else chopped width (piece ++ k.chars) (used + k.cells) ks

/-! ## Lines -/

/-- A text while it is broken into lines: the lines that are complete, the last one
    first, the line that is begun, and the cells that it takes. -/
structure Breaking where
  complete : List (List Char) := []
  line : List Char := []
  used : Nat := 0

namespace Breaking

/-- The begun line with more on it. -/
def more (b : Breaking) (cs : List Char) : Breaking :=
  { b with line := b.line ++ cs, used := b.used + cells cs }

/-- A new line; nothing stands before the first one. -/
def newLine (b : Breaking) (cs : List Char) : Breaking :=
  if b.line.isEmpty then { b with line := cs, used := cells cs }
  else { complete := b.line :: b.complete, line := cs, used := cells cs }

/-- The next word; `fold` tells whether wide ones are cut into pieces. -/
def word (width : Nat) (fold : Bool) (b : Breaking) (cs : List Char) : Breaking :=
  let needed := cells (withoutTail cs)
  if b.used + needed ≤ width then b.more cs
  else if width < needed && fold then (chopped width [] 0 (clusters cs)).foldl newLine b
  else b.newLine cs

/-- The lines so far. -/
def all (b : Breaking) : List (List Char) := (b.line :: b.complete).reverse

/-- The lines of a text; one without words is a line. -/
def lines (width : Nat) (fold : Bool) (cs : List Char) : List (List Char) :=
  match spacedWords cs with
  | [] => [cs]
  | ws => (ws.foldl (word width fold) {}).all

end Breaking

/-! ## Paragraphs -/

/-- The lines of a text as it is given. -/
def linesOf (cs : List Char) : List (List Char) := cs.splitOn '\n'

/-- The pieces of a text between its tabs, the first of which begins behind so many
    cells, with blanks up to the next eighth cell for each tab. -/
def untabbedFrom : Nat → List (List Char) → List Char
  | _, [] => []
  | _, [piece] => piece
  | used, piece :: pieces =>
    let room := 8 - (used + cells piece) % 8
    piece ++ List.replicate room ' ' ++ untabbedFrom (used + cells piece + room) pieces

/-- The text with blanks for its tabs. -/
def untabbed (cs : List Char) : List Char := untabbedFrom 0 (cs.splitOn '\t')

/-- A line whose blanks at the end are dropped as far as it has more characters than
    the given width. -/
def withoutExcess (width : Nat) (cs : List Char) : List Char :=
  let kept := (withoutTail cs).length
  cs.take (max kept width)

/-- A line that is too wide, cut short, with a mark at its end. -/
def cutShort (width : Nat) (cs : List Char) : List Char :=
  if cells cs ≤ width then cs
  else
    let kept := fitting (width - 1) (clusters cs)
    kept.flatMap Cluster.chars ++ List.replicate (width - 1 - cellsOfAll kept) ' ' ++ ['…']

/-! ## Layouts -/

/-- How the lines of a text are drawn: the pieces into which a line is broken, and what
    of a piece is drawn. -/
structure Layout where
  pieces : List Char → List (List Char) := fun line => [line]
  drawn : List Char → List Char := id

namespace Layout

/-- The lines as they are. -/
def whole : Layout := {}

/-- Lines of the given width, where wide words are cut into pieces. -/
def folded (width : Nat) : Layout := ⟨Breaking.lines width true, withoutTail⟩

/-- Lines of the given width, where wide words are cut short. -/
def shortened (width : Nat) : Layout where
  pieces := Breaking.lines width false
  drawn piece := cutShort width (withoutExcess width piece)

/-- The lines of a text. -/
def lines (y : Layout) (cs : List Char) : List (List Char) :=
  (linesOf cs).flatMap fun l => (y.pieces (untabbed l)).map y.drawn

end Layout

example : (Layout.folded 5).lines "ab cd efghijk l".toList =
    ["ab cd", "efghi", "jk l"].map String.toList := by decide +kernel
example : (Layout.shortened 8).lines "t\tx".toList =
    ["t       ", "x"].map String.toList := by decide +kernel

end ReviewRota.Console
