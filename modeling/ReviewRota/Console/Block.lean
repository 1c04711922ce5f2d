/-
  ReviewRota — console output.

  A command prints blocks one after another: running text, a framed panel with a
  title, or a table with a title and headers.  All texts are markup.  There is room
  for every line of text and every panel.  A column of a table is as wide as the
  widest line in it, and a title is broken into lines of the width of its table.

  What counts of a block are its lines of text; frames, styles and the room between
  columns are left aside, so a line is its words with one space between them, and a
  line without words is none.

  * `Block` is a block: its texts are read one after another (`Block.texts`), then they
    are drawn (`Block.sheets`), and `Block.lines` are its lines;
  * `Printed` is what came out of printing: the lines, and the fault of a tag that
    stopped it, if there is one; a block that cannot be shown in full is not shown at
    all;
  * `print` prints blocks.
-/
import ReviewRota.Console.Drawing

namespace ReviewRota.Console

/-- What is printed at once. -/
inductive Block where
  | text (markup : String)
  | panel (title body : String)
  | table (title : String) (headers : List String) (rows : List (List String))
  deriving DecidableEq, Repr

/-! ## Lines -/

/-- The character draws a frame. -/
def isFrame (c : Char) : Bool := 0x2500 ≤ c.toNat && c.toNat ≤ 0x257F

/-- The character ends a line wherever text is read line by line. -/
def endsLine (c : Char) : Bool :=
  let n := c.toNat
  (0xA ≤ n && n ≤ 0xD) || (0x1C ≤ n && n ≤ 0x1E) || n == 0x85 || n == 0x2028 || n == 0x2029

/-- The words of a line with one space between them. -/
def tidy (cs : List Char) : String :=
  Text.squeeze (String.ofList (cs.map fun c => if isFrame c then ' ' else c))

/-- The lines with words in a printed line. -/
def readLines (cs : List Char) : List String :=
  ((cs.splitOnP endsLine).map tidy).filter (· ≠ "")

/-! ## Tables -/

/-- The entries of rows, column by column. -/
def columns (rows : List (List α)) : List (List α) :=
  (List.range ((rows.map List.length).foldl max 0)).map fun i => rows.filterMap (·[i]?)

/-- The width of a column: that of its widest line. -/
def columnWidth (cellTexts : List (List Char)) : Nat :=
  (cellTexts.flatMap fun t => (t.splitOnP endsLine).map cells).foldl max 0

/-- The width of a table with columns of the given widths: there is a blank at both
    sides of a cell, and a line at both sides of a column. -/
def tableWidth (widths : List Nat) : Nat := widths.foldl (fun n w => n + w + 3) 1

/-- The lines of a row of cells side by side; a cell with fewer lines than its
    neighbours is blank below. -/
def rowLines (cellLines : List (List (List Char))) : List (List Char) :=
  let height := (cellLines.map List.length).foldl max 0
  (List.range height).map fun i =>
    [' '].intercalate (cellLines.map fun lines => (lines[i]?).getD [])

/-! ## Sheets -/

/-- The text as it is marked, if it can be. -/
def shown (k : Tagging) (s : String) : Marked := (marked k s).toOption.getD {}

/-- The title of a panel, which stands on one line. -/
def titleSheet (k : Tagging) (title : String) : Sheet :=
  let m := shown k title
  ⟨.whole, { m with text := m.text.map fun c => if c = '\n' then ' ' else c }⟩

/-- The title of a table, and its cells row by row. -/
def tableSheets (k : Tagging) (title : String) (rows : List (List String)) :
    Sheet × List (List Sheet) :=
  let cells := (columns rows).map fun column => column.map (shown k)
  let widths := cells.map fun column => columnWidth (column.map Marked.text)
  (⟨.folded (tableWidth widths), shown k title⟩,
    columns ((widths.zip cells).map fun (width, column) => column.map (⟨.shortened width, ·⟩)))

namespace Block

/-- The texts, in the order in which they are read. -/
def texts : Block → List String
  | text s => [s]
  | panel title body => [title, body]
  | table title headers rows => (columns (headers :: rows)).flatten ++ [title]

/-- The texts as they are drawn, one after another: the title of a panel behind its body,
    that of a table before its cells. -/
def sheets (k : Tagging) : Block → List Sheet
  | text s => [⟨.whole, shown k s⟩]
  | panel title body => [⟨.whole, shown k body⟩, titleSheet k title]
  | table title headers rows =>
    let (top, cells) := tableSheets k title (headers :: rows)
    top :: cells.flatten

/-- The lines that are drawn. -/
def drawn (k : Tagging) : Block → List (List Char)
  | text s => Sheet.lines ⟨.whole, shown k s⟩
  | panel title body => (titleSheet k title).lines ++ Sheet.lines ⟨.whole, shown k body⟩
  | table title headers rows =>
    let (top, cells) := tableSheets k title (headers :: rows)
    top.lines ++ cells.flatMap fun row => rowLines (row.map Sheet.lines)

/-- The lines of a block, if all its tags have their effect. -/
def lines (k : Tagging) (b : Block) : Except TagFault (List String) := do
  let _ ← b.texts.mapM (marked k)
  match (b.sheets k).findSome? (·.fault? k) with
  | some fault => throw fault
  | none => return (b.drawn k).flatMap readLines

end Block

/-! ## Printing -/

/-- What printing brought out. -/
structure Printed where
  lines : List String := []
  fault : Option TagFault := none
  deriving DecidableEq, Repr

instance : Inhabited Printed := ⟨{}⟩

/-- The blocks printed up to the first with a tag that cannot have its effect. -/
def print (k : Tagging) : List Block → Printed
  | [] => {}
  | b :: bs =>
    match b.lines k with
    | .error fault => { fault := some fault }
    | .ok lines =>
      let rest := print k bs
      { rest with lines := lines ++ rest.lines }

example : print .usual [.panel "Done" "[b]ID:[/b]  p\n\n",
      .table "T: 1" ["A", "B"] [["1", "[red]2[/red]"]]] =
    ⟨["Done", "ID: p", "T: 1", "A B", "1 2"], none⟩ := by decide +kernel
example : print .usual [.text "a", .text "b [/b]", .text "c"] =
    ⟨["a"], some (.unopened "[/b]" 2)⟩ := by decide +kernel
example : print .usual [.text "[b=rgb(,,)]a[/b]"] = ⟨[], some (.shade .missing)⟩ ∧
    (print .usual [.text "a\n[b=rgb(,,)][/b]"]).fault = none := by decide +kernel

end ReviewRota.Console
