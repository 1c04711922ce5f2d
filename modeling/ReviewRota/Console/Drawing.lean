/-
  ReviewRota — how marked text is drawn.

  The name of a style is read once more when text is drawn in it.  A text that has
  more than one line, or a tab, or that is broken, is drawn in parts, and there only a
  stretch with a character in some part has its style read.  Of any other text every
  stretch has, an empty one too, unless it begins behind what is drawn.

  * `Sheet` is a marked text and its layout, and `Sheet.lines` are its lines;
  * `Sheet.spans` are the stretches that are drawn, and `Sheet.fault?` is the fault of
    the first among them that cannot be.
-/
import ReviewRota.Console.Markup
import ReviewRota.Console.Wrap
import ReviewRota.Sorting

namespace ReviewRota.Console

/-! ## Parts of lines -/

namespace Layout

/-- The parts of a line that are drawn, by where they begin and end: the line consists of the
    given pieces from some place on. -/
def partsFrom (y : Layout) : Nat → List (List Char) → List (Nat × Nat)
  | _, [] => []
  | place, piece :: pieces =>
    (place, place + min (y.drawn piece).length piece.length) ::
      y.partsFrom (place + piece.length) pieces

/-- Of what stands in the line between the two places, some character is drawn.  Tabs are
    blanks by then. -/
def draws (y : Layout) (line : List Char) (start stop : Nat) : Bool :=
  let place n := (untabbed (line.take n)).length
  (y.partsFrom 0 (y.pieces (untabbed line))).any fun part =>
    max (place start) part.1 < min (place stop) part.2

/-- Of the stretch some character is drawn in one of the lines, the first of which begins at
    the given place. -/
def drawsAny (y : Layout) (s : Span) : Nat → List (List Char) → Bool
  | _, [] => false
  | place, line :: lines =>
    y.draws line (s.start - place) (s.stop - place) ||
      y.drawsAny s (place + line.length + 1) lines

end Layout

/-! ## Sheets -/

/-- A marked text and how its lines are drawn. -/
structure Sheet where
  layout : Layout
  marked : Marked

namespace Sheet

/-- The lines. -/
def lines (h : Sheet) : List (List Char) := h.layout.lines h.marked.text

/-- The text is drawn in parts. -/
def isBroken (h : Sheet) : Bool :=
  let text := h.marked.text
  text.contains '\n' || text.contains '\t' || 1 < (h.layout.pieces text).length

/-- The stretches that are drawn, by where they begin. -/
def spans (h : Sheet) : List Span :=
  let text := h.marked.text
  let kept := (h.layout.drawn text).length
  sortBy (fun s t => s.start ≤ t.start) (h.marked.spans.filter fun s =>
    if h.isBroken then h.layout.drawsAny s 0 (linesOf text)
    else kept = text.length || s.start < kept)

/-- The first fault among the styles that are drawn. -/
def fault? (k : Tagging) (h : Sheet) : Option TagFault :=
  h.spans.findSome? fun s => k.styleFault? s.style

end Sheet

end ReviewRota.Console
