/-
  ReviewRota — dynamic values.

  Request bodies, settings files and log entries hold values whose kind is known
  only when they are read.  A `Datum` is such a value; its tables keep their
  entries in order, each name once.

  * integers and numbers with a fraction or exponent are apart (`int`, `real`);
  * `broken` stands for a text that holds half of a surrogate pair, by its code
    points, and `time` for a date or time of a settings file;
  * `Fields.put` adds or replaces an entry, `Fields.get?` reads one, and
    `Fields.over` lays one table over another, name by name, going into the
    tables that both have.
-/
import ReviewRota.Quantity
import ReviewRota.Text.Encoding

namespace ReviewRota

/-- A value of a document. -/
inductive Datum where
  | null
  | bool (value : Bool)
  | int (value : Int)
  | real (value : Quantity)
  | text (value : String)
  | broken (points : List Text.Point)
  | time (written : String)
  | list (items : List Datum)
  | table (entries : List (String × Datum))
  deriving Repr, Inhabited

/-- The entries of a table. -/
abbrev Fields := List (String × Datum)

namespace Fields

/-- The entry of a name. -/
def get? (fs : Fields) (name : String) : Option Datum := fs.lookup name

/-- The table with the entry of a name replaced, or added at the end. -/
def put (fs : Fields) (name : String) (d : Datum) : Fields :=
  if fs.any (·.1 == name) then fs.map fun f => if f.1 == name then (name, d) else f
  else fs ++ [(name, d)]

/-- The table with those entries of `more` whose name it does not hold. -/
def orElse (fs more : Fields) : Fields := fs ++ more.filter fun f => (get? fs f.1).isNone

/-- A table of the entries in turn, of which the last of each name counts. -/
def ofEntries (fs : Fields) : Fields := fs.foldl (fun t f => put t f.1 f.2) []

end Fields

namespace Datum

/-- The entries of a table; of any other value, none. -/
def fields : Datum → Fields
  | .table fs => fs
  | _ => []

/-- The entry of a name in a table. -/
def get? (d : Datum) (name : String) : Option Datum := d.fields.get? name

/-- A list of texts. -/
def texts (ss : List String) : Datum := .list (ss.map .text)

/-- A text, or `null`. -/
def text? : Option String → Datum
  | some s => .text s
  | none => .null

end Datum

/-- The entries of `upper` laid over those of `lower`: where both hold a table
    under a name, the two are laid over each other in turn, otherwise the entry
    of `upper` counts.  The first argument bounds the depth. -/
def Fields.overWithin : Nat → Fields → Fields → Fields
  | 0, _, lower => lower
  | depth + 1, upper, lower => upper.foldl (fun t f =>
      match f.2, Fields.get? t f.1 with
      | .table new, some (.table old) => t.put f.1 (.table (overWithin depth new old))
      | d, _ => t.put f.1 d) lower

/-- The number of tables inside one another. -/
def Datum.depth : Datum → Nat
  | .table fs => depthOfFields fs + 1
  | _ => 0
where
  /-- The greatest depth of the entries. -/
  depthOfFields : Fields → Nat
  | [] => 0
  | (_, d) :: fs => max d.depth (depthOfFields fs)

/-- The entries of `upper` laid over those of `lower`. -/
def Fields.over (upper lower : Fields) : Fields :=
  Fields.overWithin (Datum.table upper).depth upper lower

end ReviewRota
