/-
  ReviewRota — how complaints show values.

  A complaint about a value shows it as it would be written in a literal: texts in
  quotes, lists in brackets, tables in braces.

  * `Datum.shown` is the literal, and `Datum.kind` the name of the kind of value;
  * `Datum.glimpse` is the literal cut to its beginning and its end where it is
    long.
-/
import ReviewRota.Datum
import ReviewRota.Text.Quoted

namespace ReviewRota.Datum

/-- The name of the kind of a value. -/
def kind : Datum → String
  | null => "NoneType"
  | bool _ => "bool"
  | int _ => "int"
  | real _ => "float"
  | text _ | broken _ => "str"
  | time _ => "datetime"
  | list _ => "list"
  | table _ => "dict"

mutual

/-- The literal of a value. -/
def shown : Datum → String
  | null => "None"
  | bool b => if b then "True" else "False"
  | int n => toString n
  | real q => q.text
  | text s => Text.quoted s
  | broken ps => Text.quotedPoints ps
  | time s => s
  | list ds => "[" ++ ", ".intercalate (shownItems ds) ++ "]"
  | table fs => "\x7b" ++ ", ".intercalate (shownEntries fs) ++ "\x7d"

/-- The literals of the items of a list. -/
def shownItems : List Datum → List String
  | [] => []
  | d :: ds => shown d :: shownItems ds

/-- The entries of a table. -/
def shownEntries : List (String × Datum) → List String
  | [] => []
  | (name, d) :: fs => (Text.quoted name ++ ": " ++ shown d) :: shownEntries fs

end

/-- The most bytes of a literal that is shown whole. -/
def longest : Nat := 50

/-- As many characters at the front of a text as fit into so many bytes. -/
def fitting : Nat → List Char → List Char
  | _, [] => []
  | room, c :: cs => if c.utf8Size ≤ room then c :: fitting (room - c.utf8Size) cs else []

/-- The literal of a value; of a long one the first 25 and the last 24 bytes. -/
def glimpse (d : Datum) : String :=
  let s := d.shown
  if s.utf8ByteSize ≤ longest then s
  else
    let cs := s.toList
    String.ofList (fitting 25 cs) ++ "..." ++ String.ofList (fitting 24 cs.reverse).reverse

example : (Datum.list [.null, .text "it's", .bool true]).shown = "[None, \"it's\", True]" := by
  decide +kernel
example : (Datum.text (String.ofList (List.replicate 60 'x'))).glimpse =
    "'xxxxxxxxxxxxxxxxxxxxxxxx...xxxxxxxxxxxxxxxxxxxxxxx'" := by decide +kernel

end ReviewRota.Datum
