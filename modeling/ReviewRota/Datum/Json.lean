/-
  ReviewRota — JSON.

  Reading and writing of dynamic values as JSON text.  The reader accepts the
  standard's grammar and, as numbers, the words `NaN`, `Infinity` and
  `-Infinity`; of entries with one name the last counts; half of a surrogate
  pair makes a text `broken`.

  * `Json.parse` reads a text that holds one value and blanks around it, or gives
    the `Fault` in it: integers have at most 4300 digits, and at most 970 values
    lie inside one another;
  * `Json.render` writes a value on one line, its entries in order, characters
    outside ASCII as themselves;
  * `Json.decode` finds the encoding form of a body by its first bytes and gives
    its text.
-/
import ReviewRota.Datum
import ReviewRota.Text.Encoding
import ReviewRota.Text.Quoted

namespace ReviewRota.Json

open Text (Point)

/-! ## Faults -/

/-- What a value has inside it. -/
inductive Inside where
  | list
  | table
  deriving DecidableEq, Repr

/-- Why a text is not read: it is not well-formed, an integer in it has too many
    digits, or too many values lie inside one another. -/
inductive Fault where
  | malformed
  | overlong
  | tooDeep (opened : Inside)
  deriving DecidableEq, Repr

/-! ## Lexical parts -/

/-- The blanks of JSON. -/
def isSkipped (p : Point) : Bool :=
  p == .char ' ' || p == .char '\t' || p == .char '\n' || p == .char '\r'

/-- The text after its leading blanks. -/
def skip (cs : List Point) : List Point := cs.dropWhile isSkipped

/-- The value of a hexadecimal digit. -/
def hexDigit? (c : Char) : Option Nat :=
  if c.isDigit then some (c.toNat - '0'.toNat)
  else if 'a' ≤ c ∧ c ≤ 'f' then some (c.toNat - 'a'.toNat + 10)
  else if 'A' ≤ c ∧ c ≤ 'F' then some (c.toNat - 'A'.toNat + 10)
  else none

/-- The unit that four hexadecimal digits write. -/
def unit? (a b c d : Point) : Option Nat := do
  let a ← hexDigit? (← a.char?)
  let b ← hexDigit? (← b.char?)
  let c ← hexDigit? (← c.char?)
  let d ← hexDigit? (← d.char?)
  some (((a * 16 + b) * 16 + c) * 16 + d)

/-- The character of a one-letter escape. -/
def shortEscape? : Point → Option Char
  | .char '"' => some '"'
  | .char '\\' => some '\\'
  | .char '/' => some '/'
  | .char 'b' => some '\x08'
  | .char 'f' => some '\x0c'
  | .char 'n' => some '\n'
  | .char 'r' => some '\r'
  | .char 't' => some '\t'
  | _ => none

/-- The code points of a text up to its closing quote, and the rest. -/
def textBody : List Point → Option (List Point × List Point)
  | .char '"' :: cs => some ([], cs)
  | .char '\\' :: .char 'u' :: a :: b :: c :: d ::
      .char '\\' :: .char 'u' :: e :: f :: g :: h :: cs =>
    match unit? a b c d, unit? e f g h with
    | some u, some v =>
      if Text.isHighSurrogate u && Text.isLowSurrogate v then
        (textBody cs).map fun r => (.char (Text.ofSurrogates u v) :: r.1, r.2)
      else
        (textBody (.char '\\' :: .char 'u' :: e :: f :: g :: h :: cs)).map fun r =>
          (.ofNat u :: r.1, r.2)
    | _, _ => none
  | .char '\\' :: .char 'u' :: a :: b :: c :: d :: cs =>
    match unit? a b c d with
    | some u => (textBody cs).map fun r => (.ofNat u :: r.1, r.2)
    | none => none
  | .char '\\' :: c :: cs =>
    match shortEscape? c with
    | some e => (textBody cs).map fun r => (.char e :: r.1, r.2)
    | none => none
  | c :: cs =>
    if c.toNat < 0x20 then none else (textBody cs).map fun r => (c :: r.1, r.2)
  | [] => none

/-- The text of the code points, which is `broken` if one is no character. -/
def textDatum (ps : List Point) : Datum :=
  if ps.any Point.isHalf then .broken ps else .text (Text.ofPoints ps)

/-- The most digits of an integer. -/
def mostDigits : Nat := 4300

/-- A number at the front of a text: a minus sign, digits without a leading
    zero, a fraction, an exponent. -/
def number (cs : List Char) : Except Fault (Datum × List Char) :=
  let (negative, body) := match cs with
    | '-' :: r => (true, r)
    | r => (false, r)
  let whole := match body with
    | '0' :: _ => ['0']
    | r => r.takeWhile Char.isDigit
  if whole.isEmpty then throw .malformed
  else
    let rest := body.drop whole.length
    let fraction := match rest with
      | '.' :: r => r.takeWhile Char.isDigit
      | _ => []
    let rest := if fraction.isEmpty then rest else rest.drop (fraction.length + 1)
    let exponent? : Option (Int × List Char) := match rest with
      | c :: r =>
        if c == 'e' || c == 'E' then
          let (minus, ds) := takeSign r
          let digits := ds.takeWhile Char.isDigit
          if digits.isEmpty then none
          else
            let n : Int := natOfDigits digits
            some (if minus then -n else n, ds.drop digits.length)
        else none
      | [] => none
    match exponent? with
    | some (e, rest) => return (.real (Quantity.ofParts negative whole fraction e), rest)
    | none =>
      if fraction.isEmpty then
        if mostDigits < whole.length then throw .overlong
        else
          let n : Int := natOfDigits whole
          return (.int (if negative then -n else n), rest)
      else return (.real (Quantity.ofParts negative whole fraction 0), rest)

/-- The rest of a text that begins with the given word. -/
def word? (w : String) (cs : List Char) : Option (List Char) :=
  if w.toList.isPrefixOf cs then some (cs.drop w.length) else none

/-- A word or a number. -/
def wordOrNumber (cs : List Char) : Except Fault (Datum × List Char) :=
  match word? "null" cs, word? "true" cs, word? "false" cs, word? "NaN" cs with
  | some r, _, _, _ => return (.null, r)
  | _, some r, _, _ => return (.bool true, r)
  | _, _, some r, _ => return (.bool false, r)
  | _, _, _, some r => return (.real .nan, r)
  | none, none, none, none =>
    match word? "Infinity" cs, word? "-Infinity" cs with
    | some r, _ => return (.real (.infinite false), r)
    | _, some r => return (.real (.infinite true), r)
    | none, none => number cs

/-- The character may belong to a word or a number. -/
def isSpelling (c : Char) : Bool := c.isAlphanum || c == '-' || c == '+' || c == '.'

/-- The characters at the front of a text that may belong to a word or a number. -/
def spelling : List Point → List Char
  | .char c :: cs => if isSpelling c then c :: spelling cs else []
  | _ => []

/-- A word or a number at the front of a text. -/
def scalar (cs : List Point) : Except Fault (Datum × List Point) := do
  let front := spelling cs
  let (d, rest) ← wordOrNumber front
  return (d, cs.drop (front.length - rest.length))

/-! ## Values -/

mutual

/-- A value at the front of a text.  The first argument bounds the work, the
    second the lists and tables inside one another. -/
def value : Nat → Nat → List Point → Except Fault (Datum × List Point)
  | 0, _, _ => throw .malformed
  | fuel + 1, depth, cs =>
    match cs with
    | .char '"' :: cs =>
      match textBody cs with
      | some (t, cs) => return (textDatum t, cs)
      | none => throw .malformed
    | .char '[' :: cs =>
      if depth = 0 then throw (.tooDeep .list)
      else
        match skip cs with
        | .char ']' :: cs => return (.list [], cs)
        | cs => do
          let (ds, cs) ← items fuel (depth - 1) cs
          return (.list ds, cs)
    | .char '\x7b' :: cs =>
      if depth = 0 then throw (.tooDeep .table)
      else
        match skip cs with
        | .char '\x7d' :: cs => return (.table [], cs)
        | cs => do
          let (fs, cs) ← entries fuel (depth - 1) cs
          return (.table (Fields.ofEntries fs), cs)
    | cs => scalar cs

/-- The items of a list up to its closing bracket. -/
def items : Nat → Nat → List Point → Except Fault (List Datum × List Point)
  | 0, _, _ => throw .malformed
  | fuel + 1, depth, cs => do
    let (d, cs) ← value fuel depth cs
    match skip cs with
    | .char ',' :: cs =>
      let (ds, cs) ← items fuel depth (skip cs)
      return (d :: ds, cs)
    | .char ']' :: cs => return ([d], cs)
    | _ => throw .malformed

/-- The entries of a table up to its closing brace. -/
def entries : Nat → Nat → List Point → Except Fault (Fields × List Point)
  | 0, _, _ => throw .malformed
  | fuel + 1, depth, cs =>
    match cs with
    | .char '"' :: cs =>
      match textBody cs with
      | none => throw .malformed
      | some (name, cs) =>
        match skip cs with
        | .char ':' :: cs => do
          let (d, cs) ← value fuel depth (skip cs)
          match skip cs with
          | .char ',' :: cs =>
            let (fs, cs) ← entries fuel depth (skip cs)
            return ((Text.ofPoints name, d) :: fs, cs)
          | .char '\x7d' :: cs => return ([(Text.ofPoints name, d)], cs)
          | _ => throw .malformed
        | _ => throw .malformed
    | _ => throw .malformed

end

/-- The most lists and tables inside one another. -/
def deepest : Nat := 970

/-- The value that the code points write.  Two calls at most fall to one of
    them. -/
def parsePoints (ps : List Point) : Except Fault Datum := do
  let cs := skip ps
  let (d, rest) ← value (2 * cs.length + 2) deepest cs
  if (skip rest).isEmpty then return d else throw .malformed

/-- The value that a text holds. -/
def parse (s : String) : Except Fault Datum := parsePoints (Text.points s)

/-! ## Writing -/

/-- A character inside quotes. -/
def escape (c : Char) : List Char :=
  if c = '"' then ['\\', '"']
  else if c = '\\' then ['\\', '\\']
  else if c = '\n' then ['\\', 'n']
  else if c = '\r' then ['\\', 'r']
  else if c = '\t' then ['\\', 't']
  else if c.toNat < 0x20 then
    '\\' :: 'u' :: Text.hexDigits 4 c.toNat
  else [c]

/-- A text in quotes. -/
def quoted (s : String) : String := String.ofList ('"' :: (s.toList.flatMap escape ++ ['"']))

/-- A text in quotes, halves of surrogate pairs by their codes. -/
def quotedPoints (ps : List Point) : String :=
  let one : Point → List Char
    | .char c => escape c
    | .half n => '\\' :: 'u' :: (Text.hexDigits 4 n)
  String.ofList ('"' :: (ps.flatMap one ++ ['"']))

/-- A number with a fraction or exponent. -/
def quantityText : Quantity → String
  | .finite b => b.text
  | .infinite negative => if negative then "-Infinity" else "Infinity"
  | .nan => "NaN"

mutual

/-- A value on one line. -/
def render : Datum → String
  | .null => "null"
  | .bool b => if b then "true" else "false"
  | .int n => toString n
  | .real q => quantityText q
  | .text s => quoted s
  | .broken ps => quotedPoints ps
  | .time s => quoted s
  | .list ds => "[" ++ ",".intercalate (renderItems ds) ++ "]"
  | .table fs => "\x7b" ++ ",".intercalate (renderEntries fs) ++ "\x7d"

/-- The items of a list. -/
def renderItems : List Datum → List String
  | [] => []
  | d :: ds => render d :: renderItems ds

/-- The entries of a table. -/
def renderEntries : List (String × Datum) → List String
  | [] => []
  | (name, d) :: fs => (quoted name ++ ":" ++ render d) :: renderEntries fs

end

/-! ## Encoding forms -/

/-- The code points of a body: the form is told by a byte order mark, or by
    which of the first four bytes are zero, as the first two characters of JSON
    are in ASCII. -/
def decode (bs : List UInt8) : Option (List Point) :=
  let found := match bs with
    | 0 :: 0 :: 0xFE :: 0xFF :: r => Text.decodeUtf32 .big r
    | 0xFF :: 0xFE :: 0 :: 0 :: r => Text.decodeUtf32 .little r
    | 0xFE :: 0xFF :: r => Text.decodeUtf16 .big r
    | 0xFF :: 0xFE :: r => Text.decodeUtf16 .little r
    | 0xEF :: 0xBB :: 0xBF :: r => Text.decodeUtf8 true r
    | 0 :: 0 :: _ :: _ :: _ => Text.decodeUtf32 .big bs
    | 0 :: _ :: _ :: _ :: _ => Text.decodeUtf16 .big bs
    | _ :: 0 :: 0 :: 0 :: _ => Text.decodeUtf32 .little bs
    | _ :: 0 :: _ :: _ :: _ => Text.decodeUtf16 .little bs
    | [0, _] => Text.decodeUtf16 .big bs
    | [_, 0] => Text.decodeUtf16 .little bs
    | _ => Text.decodeUtf8 true bs
  found.mapM id

example : ((parse "[1, 2.50, \"a\\u00fc\\ud83d\\ude00\"]").map render).toOption =
    some "[1,2.5,\"aü😀\"]" := by decide +kernel
example : ((parse "\"\\ud83d\"").map render).toOption = some "\"\\ud83d\"" := by decide +kernel
example : (parse "[1,]").toOption.isNone ∧ (parse "01").toOption.isNone ∧
    (parse "[1] x").toOption.isNone := by decide +kernel

end ReviewRota.Json
