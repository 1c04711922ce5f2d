/-
  ReviewRota — TOML.

  A settings file is a list of statements, one a line: a table header, an item of
  a list of tables, or a key with its value.  A key may be a path of parts.  What
  was declared once is not declared again: the reader keeps marks of the paths
  that are closed.

  * `Toml.value` reads a value: texts of four kinds, truth values, numbers, dates
    and times, lists, and tables on one line;
  * `Toml.Document` is what is read so far, with its marks, and
    `Toml.statement` reads one statement;
  * `Toml.parse` reads a file, or gives the `Fault` in it: an integer has at most
    4300 digits, and at most 400 values lie inside one another.
-/
import ReviewRota.Datum.Json
import ReviewRota.Moment

namespace ReviewRota.Toml

/-! ## Faults -/

/-- Why a file is not read: it is not well-formed, an integer in it has too many
    digits, or too many values lie inside one another. -/
inductive Fault where
  | malformed
  | overlong
  | tooNested
  deriving DecidableEq, Repr

/-- What was read, which is malformed if there is nothing. -/
def demand : Option α → Except Fault α
  | some a => .ok a
  | none => .error .malformed

/-! ## Characters -/

/-- A blank inside a line. -/
def isRoom (c : Char) : Bool := c == ' ' || c == '\t'

/-- A character of a key without quotes. -/
def isBare (c : Char) : Bool := c.isAlphanum || c == '-' || c == '_'

/-- A control character, which no text and no comment may hold; the tab is none. -/
def isControl (c : Char) : Bool := (c.toNat < 0x20 && c != '\t') || c.toNat == 0x7F

/-- The text after the blanks of the line. -/
def skip (cs : List Char) : List Char := cs.dropWhile isRoom

/-- The text after a comment, if there is one: the line break or nothing. -/
def comment (cs : List Char) : Option (List Char) :=
  match cs with
  | '#' :: r =>
    if (r.takeWhile (· != '\n')).any isControl then none else some (r.dropWhile (· != '\n'))
  | cs => some cs

/-- The text after blanks, line breaks and comments.  The first argument bounds
    the number of comments. -/
def skipLines : Nat → List Char → Option (List Char)
  | 0, cs => some (cs.dropWhile fun c => isRoom c || c == '\n')
  | n + 1, cs =>
    match cs.dropWhile fun c => isRoom c || c == '\n' with
    | '#' :: r => (comment ('#' :: r)).bind (skipLines n)
    | r => some r

/-- The rest of a text after a given beginning. -/
def after? (beginning : List Char) (cs : List Char) : Option (List Char) :=
  if beginning.isPrefixOf cs then some (cs.drop beginning.length) else none

/-! ## Texts -/

/-- The number that hexadecimal digits write. -/
def hexNumber? (cs : List Char) : Option Nat :=
  cs.foldl (fun n c => do return 16 * (← n) + (← Json.hexDigit? c)) (some 0)

/-- The character whose code the given number of hexadecimal digits write. -/
def coded (width : Nat) (cs : List Char) : Option (Char × List Char) := do
  if cs.length < width then none
  let n ← hexNumber? (cs.take width)
  if n.isValidChar then some (Char.ofNat n, cs.drop width) else none

/-- The character of a one-letter escape. -/
def shortEscape? : Char → Option Char
  | 'b' => some '\x08'
  | 't' => some '\t'
  | 'n' => some '\n'
  | 'f' => some '\x0c'
  | 'r' => some '\r'
  | 'e' => some '\x1b'
  | '"' => some '"'
  | '\\' => some '\\'
  | _ => none

/-- The text of an escape, after its backslash.  In a text of many lines a
    backslash at the end of a line leaves out the blanks up to the next one. -/
def escape (long : Bool) : List Char → Option (List Char × List Char)
  | 'x' :: cs => (coded 2 cs).map fun r => ([r.1], r.2)
  | 'u' :: cs => (coded 4 cs).map fun r => ([r.1], r.2)
  | 'U' :: cs => (coded 8 cs).map fun r => ([r.1], r.2)
  | c :: cs =>
    if long && (isRoom c || c == '\n') then
      match skip (c :: cs) with
      | [] => some ([], [])
      | '\n' :: r => some ([], r.dropWhile fun c => isRoom c || c == '\n')
      | _ => none
    else (shortEscape? c).map fun e => ([e], cs)
  | [] => none

/-- A text with escapes up to its closing quote, or its three closing quotes.
    The first argument bounds the length. -/
def escapedText (long : Bool) : Nat → List Char → Option (List Char × List Char)
  | 0, _ => none
  | n + 1, cs =>
    match cs with
    | [] => none
    | '\\' :: r =>
      match escape long r with
      | some (e, r) => (escapedText long n r).map fun t => (e ++ t.1, t.2)
      | none => none
    | c :: r =>
      if !long && c == '"' then some ([], r)
      else if long && "\"\"\"".toList.isPrefixOf (c :: r) then some ([], r.drop 2)
      else if isControl c && !(long && c == '\n') then none
      else (escapedText long n r).map fun t => (c :: t.1, t.2)

/-- A text without escapes up to its closing quote. -/
def plainText (cs : List Char) : Option (List Char × List Char) :=
  let t := cs.takeWhile (· != '\'')
  match cs.drop t.length with
  | _ :: r => if t.any isControl then none else some (t, r)
  | [] => none

/-- A text of many lines without escapes up to its three closing quotes. -/
def longPlainText : List Char → Option (List Char × List Char)
  | [] => none
  | c :: r =>
    if "'''".toList.isPrefixOf (c :: r) then some ([], r.drop 2)
    else if isControl c && c != '\n' then none
    else (longPlainText r).map fun t => (c :: t.1, t.2)

/-- A text of many lines with one or two more quotes, where these stand behind
    the closing ones. -/
def withExtraQuotes (quote : Char) (t : List Char × List Char) : List Char × List Char :=
  let extra := (t.2.take 2).takeWhile (· == quote)
  (t.1 ++ extra, t.2.drop extra.length)

/-- The text after a line break at its front. -/
def withoutBreak : List Char → List Char
  | '\n' :: cs => cs
  | cs => cs

/-- A text of any kind. -/
def text (cs : List Char) : Option (String × List Char) :=
  let read := match cs with
    | '"' :: '"' :: '"' :: r =>
      let r := withoutBreak r
      (escapedText true (r.length + 1) r).map (withExtraQuotes '"')
    | '\'' :: '\'' :: '\'' :: r => (longPlainText (withoutBreak r)).map (withExtraQuotes '\'')
    | '"' :: r => escapedText false (r.length + 1) r
    | '\'' :: r => plainText r
    | _ => none
  read.map fun t => (String.ofList t.1, t.2)

/-! ## Keys -/

/-- A part of a key. -/
def keyPart (cs : List Char) : Option (String × List Char) :=
  match cs with
  | '"' :: r => (escapedText false (r.length + 1) r).map fun t => (String.ofList t.1, t.2)
  | '\'' :: r => (plainText r).map fun t => (String.ofList t.1, t.2)
  | cs =>
    let t := cs.takeWhile isBare
    if t.isEmpty then none else some (String.ofList t, cs.drop t.length)

/-- The parts of a key, with points between them.  The first argument bounds
    their number. -/
def keyParts : Nat → List Char → Option (List String × List Char)
  | 0, _ => none
  | n + 1, cs =>
    match keyPart cs with
    | none => none
    | some (k, r) =>
      match skip r with
      | '.' :: r => (keyParts n (skip r)).map fun t => (k :: t.1, t.2)
      | r => some ([k], r)

/-- A key. -/
def key (cs : List Char) : Option (List String × List Char) := keyParts (cs.length + 1) cs

/-! ## Numbers, dates and times -/

/-- The digits at the front of a text, with single underscores between them. -/
def digitsOf (p : Char → Bool) : List Char → List Char × List Char
  | c :: '_' :: d :: cs =>
    if p c && p d then
      let t := digitsOf p (d :: cs)
      (c :: t.1, t.2)
    else if p c then ([c], '_' :: d :: cs)
    else ([], c :: '_' :: d :: cs)
  | c :: cs =>
    if p c then
      let t := digitsOf p cs
      (c :: t.1, t.2)
    else ([], c :: cs)
  | [] => ([], [])

/-- An integer with a mark for its base. -/
def based (p : Char → Bool) (base : Nat) (cs : List Char) : Option (Datum × List Char) :=
  let (ds, r) := digitsOf p cs
  if ds.isEmpty then none
  else
    let n := ds.foldl (fun n c => base * n + (Json.hexDigit? c).getD 0) 0
    some (.int n, r)

/-- The digits of a fraction, after its point. -/
def fractionOf : List Char → List Char × List Char
  | '.' :: r =>
    let (ds, rest) := digitsOf Char.isDigit r
    if ds.isEmpty then ([], '.' :: r) else (ds, rest)
  | cs => ([], cs)

/-- The exponent of a number. -/
def exponentOf (cs : List Char) : Option Int × List Char :=
  match cs with
  | c :: r =>
    if c == 'e' || c == 'E' then
      let (negative, ds) := takeSign r
      let (ds, rest) := digitsOf Char.isDigit ds
      if ds.isEmpty then (none, cs)
      else (some (if negative then -(natOfDigits ds : Int) else natOfDigits ds), rest)
    else (none, cs)
  | [] => (none, cs)

/-- A decimal number. -/
def decimal (cs : List Char) : Except Fault (Datum × List Char) :=
  let (negative, body) := takeSign cs
  let (whole, r) := match body with
    | '0' :: r => (['0'], r)
    | body => digitsOf Char.isDigit body
  if whole.isEmpty then throw .malformed
  else
    let (fraction, r) := fractionOf r
    let (exponent, r) := exponentOf r
    if fraction.isEmpty && exponent.isNone then
      if Json.mostDigits < whole.length then throw .overlong
      else return (.int (if negative then -(natOfDigits whole : Int) else natOfDigits whole), r)
    else return (.real (Quantity.ofParts negative whole fraction (exponent.getD 0)), r)

/-- A number. -/
def number (cs : List Char) : Except Fault (Datum × List Char) :=
  let marked := match cs with
    | '0' :: 'x' :: r => based (fun c => (Json.hexDigit? c).isSome) 16 r
    | '0' :: 'b' :: r => based (fun c => c == '0' || c == '1') 2 r
    | '0' :: 'o' :: r => based (fun c => '0' ≤ c && c ≤ '7') 8 r
    | _ => none
  match marked with
  | some found => .ok found
  | none => decimal cs

/-- An infinity, or "not a number". -/
def special (cs : List Char) : Option (Datum × List Char) :=
  let (negative, r) := takeSign cs
  match after? "inf".toList r, after? "nan".toList r with
  | some r, _ => some (.real (.infinite negative), r)
  | _, some r => some (.real .nan, r)
  | none, none => none

/-- Two digits that write a number up to a bound. -/
def twoDigits (greatest : Nat) (cs : List Char) : Option (Nat × List Char) :=
  (Moment.number 2 cs).filter (·.1 ≤ greatest)

/-- The text after the seconds of a time, which may be missing. -/
def seconds (cs : List Char) : List Char :=
  match (Moment.mark [':'] cs).bind (twoDigits 59) with
  | none => cs
  | some (_, '.' :: r) =>
    if (r.takeWhile Char.isDigit).isEmpty then '.' :: r else r.dropWhile Char.isDigit
  | some (_, r) => r

/-- The text after a time of day. -/
def time (cs : List Char) : Option (List Char) := do
  let (_, cs) ← twoDigits 23 cs
  let cs ← Moment.mark [':'] cs
  let (_, cs) ← twoDigits 59 cs
  return seconds cs

/-- The text after an offset from UTC, if there is one. -/
def offset (cs : List Char) : List Char :=
  match cs with
  | 'Z' :: r => r
  | 'z' :: r => r
  | c :: r =>
    if c == '+' || c == '-' then
      ((twoDigits 23 r).bind fun h => (Moment.mark [':'] h.2).bind fun r =>
        (twoDigits 59 r).map Prod.snd).getD cs
    else cs
  | [] => []

/-- The date that a text begins with, existing or not. -/
def date (cs : List Char) : Option (CivilDate × List Char) := do
  let (year, cs) ← Moment.number 4 cs
  let cs ← Moment.mark ['-'] cs
  let (month, cs) ← twoDigits 12 cs
  let cs ← Moment.mark ['-'] cs
  let (day, cs) ← twoDigits 31 cs
  if month = 0 ∨ day = 0 then none else some (⟨year, month, day⟩, cs)

/-- A date, a date with a time, or a time.  The answer is `none` where none of
    them stands, and holds nothing where the date does not exist. -/
def stamp (cs : List Char) : Option (Option (Datum × List Char)) :=
  let found (rest : List Char) : Datum × List Char :=
    (.time (String.ofList (cs.take (cs.length - rest.length))), rest)
  match date cs with
  | some (d, r) =>
    let rest := ((Moment.mark ['T', 't', ' '] r).bind time).map offset
    some (if d.valid && 1 ≤ d.year then some (found (rest.getD r)) else none)
  | none => (time cs).map fun r => some (found r)

/-- A value without parts. -/
def scalar (cs : List Char) : Except Fault (Datum × List Char) :=
  match cs with
  | '"' :: _ | '\'' :: _ => demand ((text cs).map fun t => (.text t.1, t.2))
  | cs =>
    match after? "true".toList cs, after? "false".toList cs, stamp cs with
    | some r, _, _ => return (.bool true, r)
    | _, some r, _ => return (.bool false, r)
    | _, _, some result => demand result
    | none, none, none =>
      match special cs with
      | some found => return found
      | none => number cs

/-! ## Tables -/

/-- The table with the one that a key names changed; parts that are missing are
    made.  A list of tables stands for its last one, if `lists` says so. -/
def within (lists : Bool) (change : Fields → Option Fields) : List String → Fields → Option Fields
  | [], fs => change fs
  | k :: ks, fs =>
    match fs.get? k with
    | none => (within lists change ks []).map fun t => fs.put k (.table t)
    | some (.table t) => (within lists change ks t).map fun t => fs.put k (.table t)
    | some (.list ds) =>
      match lists, ds.getLast? with
      | true, some (.table t) =>
        (within lists change ks t).map fun t => fs.put k (.list (ds.dropLast ++ [.table t]))
      | _, _ => none
    | some _ => none

/-- One more entry, unless the name is taken. -/
def addEntry (name : String) (d : Datum) (fs : Fields) : Option Fields :=
  if (fs.get? name).isSome then none else some (fs ++ [(name, d)])

/-- One more empty table in a list of tables. -/
def addItem (name : String) (fs : Fields) : Option Fields :=
  match fs.get? name with
  | none => some (fs ++ [(name, .list [.table []])])
  | some (.list ds) => some (fs.put name (.list (ds ++ [.table []])))
  | some _ => none

/-- The value is a list or a table. -/
def hasParts : Datum → Bool
  | .list _ | .table _ => true
  | _ => false

/-- The path is one of those given, or lies below one. -/
def isBelow (paths : List (List String)) (path : List String) : Bool :=
  paths.any fun p => p.isPrefixOf path

/-! ## Values -/

/-- The most lists and tables inside one another. -/
def deepest : Nat := 400

mutual

/-- A value.  The first argument bounds the work, the second counts the lists and
    tables around the value. -/
def value : Nat → Nat → List Char → Except Fault (Datum × List Char)
  | 0, _, _ => throw .malformed
  | n + 1, around, cs =>
    if deepest < around then throw .tooNested
    else
      match cs with
      | '[' :: r => items n (around + 1) [] r
      | '\x7b' :: r => do
        match ← demand (skipLines r.length r) with
        | '\x7d' :: r => return (.table [], r)
        | r => entries n (around + 1) [] [] r
      | cs => scalar cs

/-- The items of a list up to its closing bracket. -/
def items : Nat → Nat → List Datum → List Char → Except Fault (Datum × List Char)
  | 0, _, _, _ => throw .malformed
  | n + 1, around, done, cs => do
    match ← demand (skipLines cs.length cs) with
    | ']' :: r => return (.list done, r)
    | r =>
      let (d, r) ← value n around r
      match ← demand (skipLines r.length r) with
      | ']' :: r => return (.list (done ++ [d]), r)
      | ',' :: r => items n around (done ++ [d]) r
      | _ => throw .malformed

/-- The entries of a table up to its closing brace; `closed` are the paths of
    lists and tables, which no key goes into. -/
def entries : Nat → Nat → List (List String) → Fields → List Char →
    Except Fault (Datum × List Char)
  | 0, _, _, _, _ => throw .malformed
  | n + 1, around, closed, fs, cs =>
    match key cs with
    | some (k, '=' :: r) => do
      let (d, r) ← value n around (skip r)
      if isBelow closed k then throw .malformed
      let fs ← demand (within false (addEntry (k.getLastD "") d) k.dropLast fs)
      match ← demand (skipLines r.length r) with
      | '\x7d' :: r => return (.table fs, r)
      | ',' :: r =>
        match ← demand (skipLines r.length r) with
        | '\x7d' :: r => return (.table fs, r)
        | r => entries n around (if hasParts d then k :: closed else closed) fs r
      | _ => throw .malformed
    | _ => throw .malformed

end

/-! ## Documents -/

/-- What is read so far: the table, the path of the present header, the paths of
    closed values, the paths of declared tables, and those that will count as
    declared from the next header on. -/
structure Document where
  table : Fields := []
  header : List String := []
  closed : List (List String) := []
  declared : List (List String) := []
  pending : List (List String) := []

/-- The document with what was pending declared. -/
def Document.settled (d : Document) : Document :=
  { d with declared := d.pending ++ d.declared, pending := [] }

/-- A table begins. -/
def Document.openTable (d : Document) (k : List String) : Option Document :=
  if d.declared.contains k || isBelow d.closed k then none
  else (within true some k d.table).map fun table =>
    { d with table, header := k, declared := k :: d.declared }

/-- An item of a list of tables begins; what lies below it may be declared anew. -/
def Document.openItem (d : Document) (k : List String) : Option Document :=
  if isBelow d.closed k then none
  else (within true (addItem (k.getLastD "")) k.dropLast d.table).map fun table =>
    { d with
      table, header := k
      closed := d.closed.filter fun p => !k.isPrefixOf p
      declared := k :: d.declared.filter fun p => !k.isPrefixOf p }

/-- The proper beginnings of a path, the empty one left aside. -/
def beginnings (k : List String) : List (List String) :=
  ((List.range k.length).drop 1).map k.take

/-- A key gets a value. -/
def Document.enter (d : Document) (k : List String) (v : Datum) : Option Document :=
  let parts := (beginnings k).map (d.header ++ ·)
  if parts.any d.declared.contains || isBelow d.closed (d.header ++ k.dropLast) then none
  else (within true (addEntry (k.getLastD "") v) (d.header ++ k.dropLast) d.table).map fun table =>
    { d with
      table
      pending := parts ++ d.pending
      closed := if hasParts v then (d.header ++ k) :: d.closed else d.closed }

/-- One statement at the front of a text. -/
def statement (d : Document) (cs : List Char) : Except Fault (Document × List Char) :=
  match cs with
  | '[' :: '[' :: r =>
    match key (skip r) with
    | some (k, ']' :: ']' :: r) => demand ((d.settled.openItem k).map fun d => (d, skip r))
    | _ => throw .malformed
  | '[' :: r =>
    match key (skip r) with
    | some (k, ']' :: r) => demand ((d.settled.openTable k).map fun d => (d, skip r))
    | _ => throw .malformed
  | cs =>
    match key cs with
    | some (k, '=' :: r) => do
      let (v, r) ← value (2 * r.length + 2) 0 (skip r)
      demand ((d.enter k v).map fun d => (d, skip r))
    | _ => throw .malformed

/-- The text after the rest of a line that holds no more than a comment. -/
def nextLine (cs : List Char) : Option (List Char) :=
  match comment cs with
  | some [] => some []
  | some ('\n' :: r) => some r
  | _ => none

/-- The statements of a text.  The first argument bounds the number of lines. -/
def statements : Nat → Document → List Char → Except Fault Document
  | 0, _, _ => throw .malformed
  | n + 1, d, cs =>
    match skip cs with
    | [] => return d
    | '\n' :: r => statements n d r
    | '#' :: r => do statements n d (← demand (nextLine ('#' :: r)))
    | cs => do
      let (d, r) ← statement d cs
      statements n d (← demand (nextLine r))

/-- The line breaks of a text, each as one character. -/
def unixLines : List Char → List Char
  | '\r' :: '\n' :: cs => '\n' :: unixLines cs
  | c :: cs => c :: unixLines cs
  | [] => []

/-- The table that a file holds. -/
def parse (s : String) : Except Fault Fields := do
  let cs := unixLines s.toList
  return (← statements (cs.length + 2) {} cs).table

example : ((parse "a.b = 1 # x\n[[t]]\nk = 'v'\n[[t]]\n").map (Json.render ∘ .table)).toOption =
    some "\x7b\"a\":\x7b\"b\":1\x7d,\"t\":[\x7b\"k\":\"v\"\x7d,\x7b\x7d]\x7d" := by decide +kernel
example : (parse "a = 1\na = 2").toOption.isNone ∧ (parse "[a]\n[a]").toOption.isNone ∧
    (parse "a = \x7b b = 1 \x7d\na.c = 2").toOption.isNone ∧ (parse "a = 01").toOption.isNone := by
  decide +kernel
example : (parse "a = \x7b # x\n b = 07:32,\n\x7d\n").toOption.isSome := by decide +kernel

end ReviewRota.Toml
