/-
  ReviewRota — tokens.

  An expression is cut into words, numbers, texts between quotes and signs.  A text
  may have a mark in front of it: it then holds bytes, or is a pattern to be filled
  in, or a backslash in it is a character like any other.  Otherwise a backslash
  begins an escape.  Lines count outside of brackets only.

  * `Token` is a sign, a word, a number or a text, and `tokens` cuts a text into
    them;
  * `escapeFlaw?` and `byteFlaw?` are the complaints about what stands in a text;
  * `takeNumber` takes a number from the front of a text.
-/
import ReviewRota.Datum.Json
import ReviewRota.Numeral
import ReviewRota.Text.Digit
import ReviewRota.Text.Letter

namespace ReviewRota.Console

/-- A number as it is written: whole, with more digits than numbers may have, with a
    fraction or an exponent, or imaginary. -/
inductive Number where
  | whole (n : Nat)
  | overlong (digits : Nat)
  | real
  | imaginary
  deriving DecidableEq, Repr

/-- What a text consists of: characters, bytes, or parts that are filled in. -/
inductive TextKind where
  | characters
  | bytes
  | pattern
  deriving DecidableEq, Repr

/-- The smallest parts of an expression; a text may have a flaw, `line` is the end of a
    line, `indent` the blanks in front of one, and `slash` a backslash outside of texts;
    behind the last two no more is read. -/
inductive Token where
  | word (cs : List Char)
  | number (n : Number)
  | text (kind : TextKind) (flaw : Option String)
  | sign (cs : List Char)
  | line
  | indent
  | slash
  deriving DecidableEq, Repr

/-! ## Words -/

/-- The character may stand in a word. -/
def isWordChar (c : Char) : Bool := c.isAlphanum || c == '_' || 0x80 ≤ c.toNat

/-- What is said of a character by its code. -/
def codeOf (c : Char) : String :=
  let n := c.toNat
  let width := if n < 0x10000 then 4 else if n < 0x100000 then 5 else 6
  "U+" ++ String.ofList ((Text.hexDigits width n).map Char.toUpper)

/-- The complaint about a character that belongs to no token. -/
def badCharacter (c : Char) : String :=
  if Text.isPrintable c then "invalid character '" ++ c.toString ++ "' (" ++ codeOf c ++ ")"
  else "invalid non-printable character " ++ codeOf c

/-- The complaint about the first character of a word that stands in none; a digit from
    outside ASCII may not be the first. -/
def wordFlaw? (word : List Char) : Option String :=
  match word with
  | [] => none
  | first :: _ =>
    if 0x80 ≤ first.toNat ∧ (Text.digit? first).isSome then some (badCharacter first)
    else (word.find? fun c => !Text.isPrintable c || Text.isSign c).map badCharacter

/-! ## Texts -/

/-- What the mark in front of a text says: what the text consists of, and whether a
    backslash in it is a character like any other. -/
def textMark? (mark : List Char) : Option (TextKind × Bool) :=
  match String.ofList (mark.map Char.toLower) with
  | "" | "u" => some (.characters, false)
  | "r" => some (.characters, true)
  | "b" => some (.bytes, false)
  | "br" | "rb" => some (.bytes, true)
  | "f" => some (.pattern, false)
  | "fr" | "rf" => some (.pattern, true)
  | _ => none

/-- The number of line ends. -/
def lineEnds (cs : List Char) : Nat := cs.count '\n'

/-- The inside of a text between single quotes of the given kind, and what is behind
    it; none if the line ends before the text. -/
def closeText? (quote : Char) : List Char → Option (List Char × List Char)
  | [] => none
  | '\\' :: c :: cs => (closeText? quote cs).map fun r => ('\\' :: c :: r.1, r.2)
  | c :: cs =>
    if c = quote then some ([], cs)
    else if c = '\n' then none
    else (closeText? quote cs).map fun r => (c :: r.1, r.2)

/-- The same for a text between triple quotes, which may hold line ends. -/
def closeLongText? (quote : Char) : List Char → Option (List Char × List Char)
  | [] => none
  | '\\' :: c :: cs => (closeLongText? quote cs).map fun r => ('\\' :: c :: r.1, r.2)
  | c :: cs =>
    if [quote, quote, quote].isPrefixOf (c :: cs) then some ([], cs.drop 2)
    else (closeLongText? quote cs).map fun r => (c :: r.1, r.2)

/-- The number that digits write in a base; other characters do not count. -/
def natInBase (base : Nat) (cs : List Char) : Nat :=
  (cs.filterMap Json.hexDigit?).foldl (fun n d => base * n + d) 0

/-- The character is a hexadecimal digit. -/
def isHexDigit (c : Char) : Bool := (Json.hexDigit? c).isSome

/-- The room that characters take where escapes are counted: those outside ASCII
    stand there as escapes themselves. -/
def escapedRoom (cs : List Char) : Nat :=
  cs.foldl (fun n c => n + if c.toNat < 0x80 then 1 else 10) 0

/-- The complaint about an escape between two places. -/
def escapeComplaint (start stop : Nat) (reason : String) : String :=
  "(unicode error) 'unicodeescape' codec can't decode bytes in position " ++ toString start ++ "-" ++
    toString stop ++ ": " ++ reason

/-- The flaw of an escape with a code of so many digits. -/
def codeFlaw? (start digits : Nat) (form : String) (cs : List Char) : Option String :=
  let code := (cs.take digits).takeWhile isHexDigit
  let stop := start + 1 + code.length
  if code.length < digits then
    some (escapeComplaint start stop ("truncated " ++ form ++ " escape"))
  else if 0x10FFFF < natInBase 16 code then
    some (escapeComplaint start stop "illegal Unicode character")
  else none

/-- The character may stand in the name of a character. -/
def mayName (c : Char) : Bool := c.isAlphanum || c == ' ' || c == '-'

/-- The flaw of an escape with the name of a character between braces; every name that
    may be one is taken to be one. -/
def nameFlaw? (start : Nat) (cs : List Char) : Option String :=
  let malformed : String := "malformed \\N character escape"
  match cs with
  | '\x7b' :: cs =>
    let name := cs.takeWhile (· ≠ '\x7d')
    let stop := start + 2 + escapedRoom name
    if name.length = cs.length then some (escapeComplaint start stop malformed)
    else if name.isEmpty then some (escapeComplaint start stop malformed)
    else if name.all mayName then none
    else some (escapeComplaint start (stop + 1) "unknown Unicode character name")
  | _ => some (escapeComplaint start (start + 1) malformed)

/-- The flaw of the escape behind a backslash. -/
def oneEscapeFlaw? (start : Nat) (c : Char) (cs : List Char) : Option String :=
  if c = 'x' then codeFlaw? start 2 "\\xXX" cs
  else if c = 'u' then codeFlaw? start 4 "\\uXXXX" cs
  else if c = 'U' then codeFlaw? start 8 "\\UXXXXXXXX" cs
  else if c = 'N' then nameFlaw? start cs
  else none

/-- The complaint about the first escape of a text that cannot be read; the text begins
    at the given place. -/
def escapeFlaw? : Nat → List Char → Option String
  | _, [] => none
  | start, '\\' :: c :: cs =>
    let room := if c.toNat < 0x80 then 2 else 6 + escapedRoom [c]
    (oneEscapeFlaw? start c cs).or (escapeFlaw? (start + room) cs)
  | start, c :: cs => escapeFlaw? (start + escapedRoom [c]) cs

/-- The complaint about the first escape of a text of bytes that cannot be read. -/
def byteEscapeFlaw? : Nat → List Char → Option String
  | _, [] => none
  | start, '\\' :: 'x' :: cs =>
    if 2 ≤ cs.length ∧ (cs.take 2).all isHexDigit then byteEscapeFlaw? (start + 2) cs
    else some ("(value error) invalid \\x escape at position " ++ toString start)
  | start, '\\' :: _ :: cs => byteEscapeFlaw? (start + 2) cs
  | start, _ :: cs => byteEscapeFlaw? (start + 1) cs

/-- The complaint about the inside of a text. -/
def textFlaw? (kind : TextKind) (isRaw : Bool) (inside : List Char) : Option String :=
  match kind with
  | .characters => if isRaw then none else escapeFlaw? 0 inside
  | .bytes =>
    if inside.any (0x80 ≤ ·.toNat) then some "bytes can only contain ASCII literal characters"
    else if isRaw then none
    else byteEscapeFlaw? 0 inside
  | .pattern => none

/-- A text whose first quote has been read, and what is behind it. -/
def takeText (mark : TextKind × Bool) (line : Nat) (quote : Char) (cs : List Char) :
    Except String (Token × List Char) :=
  let unclosed (kind : String) (line : Nat) : Except String (Token × List Char) :=
    .error ("unterminated " ++ kind ++ "string literal (detected at line " ++ toString line ++ ")")
  let token (inside : List Char) : Token := .text mark.1 (textFlaw? mark.1 mark.2 inside)
  if [quote, quote].isPrefixOf cs then
    match closeLongText? quote (cs.drop 2) with
    | some (inside, rest) => .ok (token inside, rest)
    | none => unclosed "triple-quoted " (line + lineEnds cs)
  else
    match closeText? quote cs with
    | some (inside, rest) => .ok (token inside, rest)
    | none => unclosed "" line

/-! ## Numbers -/

/-- Words that may follow a number without a blank. -/
def joints : List String := ["and", "else", "for", "if", "in", "is", "not", "or"]

/-- What is behind a number of the given kind, which no word may follow. -/
def endNumber (kind : String) (cs : List Char) : Except String (List Char) :=
  let complaint : String := "invalid " ++ kind ++ " literal"
  match cs with
  | [] => .ok []
  | c :: _ =>
    if (c.isAlphanum || c == '_') && !joints.any (fun w => w.toList.isPrefixOf cs) then
      .error complaint
    else .ok cs

/-- What is behind a run of digits of the given kind, with single underscores
    between them. -/
def skipDigits (kind : String) (isDigit : Char → Bool) : List Char → Except String (List Char)
  | '_' :: c :: cs =>
    if isDigit c then skipDigits kind isDigit cs
    else .error ("invalid " ++ kind ++ " literal")
  | ['_'] => .error ("invalid " ++ kind ++ " literal")
  | c :: cs => if isDigit c then skipDigits kind isDigit cs else .ok (c :: cs)
  | [] => .ok []

/-- What is behind a number in another base than ten. -/
def takeBased (kind : String) (isDigit : Char → Bool) (cs : List Char) :
    Except String (List Char) := do
  let wrongDigit (c : Char) : Except String (List Char) :=
    .error ("invalid digit '" ++ c.toString ++ "' in " ++ kind ++ " literal")
  let digits := match cs with
    | '_' :: r => r
    | r => r
  match digits with
  | c :: _ =>
    if isDigit c then
      let rest ← skipDigits kind isDigit digits
      match rest with
      | d :: _ => if d.isDigit then wrongDigit d else endNumber kind rest
      | [] => return []
    else if c.isDigit then wrongDigit c
    else throw ("invalid " ++ kind ++ " literal")
  | [] => throw ("invalid " ++ kind ++ " literal")

/-- What is behind the exponent and the mark of an imaginary number. -/
def takeExponent (cs : List Char) : Except String (List Char) := do
  let behind ← match cs with
    | e :: r =>
      if e = 'e' ∨ e = 'E' then
        let digits := match r with
          | '+' :: r | '-' :: r => r
          | r => r
        match digits with
        | c :: _ => if c.isDigit then skipDigits "decimal" Char.isDigit digits else pure cs
        | [] => pure cs
      else pure cs
    | [] => pure cs
  match behind with
  | 'j' :: r | 'J' :: r => endNumber "imaginary" r
  | r => endNumber "decimal" r

/-- What is behind a number in base ten. -/
def takeDecimal (cs : List Char) : Except String (List Char) := do
  let behind ← match cs with
    | '.' :: _ => pure cs
    | _ => skipDigits "decimal" Char.isDigit cs
  let whole := cs.take (cs.length - behind.length)
  let padded := whole.head? == some '0' && whole.any fun c => c != '0' && c != '_'
  match behind with
  | '.' :: '_' :: r => endNumber "decimal" ('_' :: r)
  | '.' :: r => takeExponent (← skipDigits "decimal" Char.isDigit r)
  | c :: r =>
    if padded && !(['e', 'E', 'j', 'J'].contains c) then
      throw ("leading zeros in decimal integer literals are not permitted; " ++
        "use an 0o prefix for octal integers")
    else takeExponent (c :: r)
  | [] =>
    if padded then
      throw ("leading zeros in decimal integer literals are not permitted; " ++
        "use an 0o prefix for octal integers")
    else return []

/-- The number in base ten that is written so. -/
def decimal (cs : List Char) : Number :=
  let digits := cs.filter (· ≠ '_')
  if cs.getLast?.any (·.toLower = 'j') then .imaginary
  else if !digits.all Char.isDigit then .real
  else if Numeral.mostDigits < digits.length then .overlong digits.length
  else .whole (natOfDigits digits)

/-- A number, and what is behind it. -/
def takeNumber (cs : List Char) : Except String (Number × List Char) := do
  let based (kind : String) (base : Nat) (isDigit : Char → Bool) (digits : List Char) :
      Except String (Number × List Char) := do
    let rest ← takeBased kind isDigit digits
    return (.whole (natInBase base (digits.take (digits.length - rest.length))), rest)
  match cs with
  | '0' :: 'x' :: digits | '0' :: 'X' :: digits => based "hexadecimal" 16 isHexDigit digits
  | '0' :: 'o' :: digits | '0' :: 'O' :: digits =>
    based "octal" 8 (fun c => '0' ≤ c && c ≤ '7') digits
  | '0' :: 'b' :: digits | '0' :: 'B' :: digits =>
    based "binary" 2 (fun c => c == '0' || c == '1') digits
  | cs => do
    let rest ← takeDecimal cs
    return (decimal (cs.take (cs.length - rest.length)), rest)

/-! ## Signs -/

/-- Signs of more than one character, the longest first. -/
def longSigns : List String :=
  ["...", "**=", "//=", "<<=", ">>=", "**", "//", "<<", ">>", "<=", ">=", "==", "!=", ":=", "->",
    "+=", "-=", "*=", "/=", "%=", "&=", "|=", "^=", "@="]

/-- A sign, and what is behind it. -/
def takeSign (c : Char) (cs : List Char) : List Char × List Char :=
  match longSigns.find? fun s => s.toList.isPrefixOf (c :: cs) with
  | some s => (s.toList, (c :: cs).drop s.length)
  | none => ([c], cs)

/-- The most brackets that may be open. -/
def mostBrackets : Nat := 200

/-- Where a cut of a text stands: the brackets that are open, the last one first, each
    with its line; the line; whether a token has been read at all, whether none has been
    read on the line, and whether the line begins with a blank. -/
structure Place where
  brackets : List (Char × Nat) := []
  line : Nat := 1
  isBegun : Bool := false
  isFresh : Bool := true
  isIndented : Bool := false
  deriving DecidableEq, Repr

namespace Place

/-- The place behind the end of a line; a line that ends within brackets goes on. -/
def newLine (p : Place) : Place :=
  if p.brackets.isEmpty then { p with line := p.line + 1, isFresh := true, isIndented := false }
  else { p with line := p.line + 1 }

/-- The place behind a bracket that opens. -/
def opening (p : Place) (c : Char) : Except String Place :=
  if mostBrackets ≤ p.brackets.length then .error "too many nested parentheses"
  else .ok { p with brackets := (c, p.line) :: p.brackets }

/-- What is in front of a token on its line. -/
def ahead (p : Place) : List Token :=
  if p.isFresh then
    (if p.isBegun then [.line] else []) ++ (if p.isIndented then [.indent] else [])
  else []

/-- The bracket that closes the given one. -/
def closer (c : Char) : Char := if c = '(' then ')' else if c = '[' then ']' else '\x7d'

/-- The place behind a bracket that closes. -/
def closing (p : Place) (c : Char) : Except String Place :=
  match p.brackets with
  | [] => .error ("unmatched '" ++ c.toString ++ "'")
  | b :: bs =>
    if closer b.1 = c then .ok { p with brackets := bs }
    else .error ("closing parenthesis '" ++ c.toString ++
      "' does not match opening parenthesis '" ++ b.1.toString ++ "'" ++
      (if b.2 = p.line then "" else " on line " ++ toString b.2))

end Place

/-! ## Tokens -/

/-- A word or a text with a mark in front of it, and what is behind it. -/
def takeWord (p : Place) (cs : List Char) : Except String (Token × List Char) :=
  let word := cs.takeWhile isWordChar
  let rest := cs.drop word.length
  match rest, textMark? word with
  | '\'' :: behind, some mark => takeText mark p.line '\'' behind
  | '"' :: behind, some mark => takeText mark p.line '"' behind
  | _, _ =>
    match wordFlaw? word with
    | some complaint => .error complaint
    | none => .ok (.word word, rest)

/-- The token at the front of a text that begins with neither blanks nor a comment, the
    place behind it, and the rest. -/
def takeToken (p : Place) (c : Char) (cs : List Char) : Except String (Token × Place × List Char) :=
  if c = '\'' ∨ c = '"' then do
    let (t, rest) ← takeText (.characters, false) p.line c cs
    return (t, { p with line := p.line + lineEnds (cs.take (cs.length - rest.length)) }, rest)
  else if c.isDigit ∨ (c = '.' ∧ cs.head?.any Char.isDigit) then do
    let (n, rest) ← takeNumber (c :: cs)
    return (.number n, p, rest)
  else if isWordChar c then do
    let (t, rest) ← takeWord p (c :: cs)
    return (t, { p with line := p.line + lineEnds (cs.take (cs.length - rest.length)) }, rest)
  else if c = '(' ∨ c = '[' ∨ c = '\x7b' then do return (.sign [c], ← p.opening c, cs)
  else if c = ')' ∨ c = ']' ∨ c = '\x7d' then do return (.sign [c], ← p.closing c, cs)
  else if Text.isPrintable c then
    let (sign, rest) := takeSign c cs
    .ok (.sign sign, p, rest)
  else .error (badCharacter c)

/-- The tokens of a text and the place at its end.  The first argument bounds the
    length. -/
def tokensFrom : Nat → Place → List Char → Except String (List Token × Place)
  | 0, p, _ | _, p, [] => .ok ([], p)
  | n + 1, p, c :: cs =>
    if c = ' ' ∨ c = '\t' then
      tokensFrom n { p with isIndented := true } cs
    else if c = '\x0c' then tokensFrom n { p with isIndented := false } cs
    else if c = '\n' then tokensFrom n p.newLine cs
    else if c = '#' then tokensFrom n p (cs.dropWhile (· != '\n'))
    else if c = '\\' then
      match cs with
      | '\n' :: cs => tokensFrom n { p with line := p.line + 1 } cs
      | _ => .ok (p.ahead ++ [.slash], p)
    else if p.isFresh && p.isIndented then .ok (p.ahead, p)
    else do
      let (t, next, rest) ← takeToken p c cs
      let (ts, last) ← tokensFrom n { next with isBegun := true, isFresh := false } rest
      return (p.ahead ++ t :: ts, last)

/-- The text with one kind of line ends. -/
def withLines : List Char → List Char
  | '\r' :: '\n' :: cs => '\n' :: withLines cs
  | '\r' :: cs => '\n' :: withLines cs
  | c :: cs => c :: withLines cs
  | [] => []

/-- The tokens of a text, and the place at its end. -/
def tokens (cs : List Char) : Except String (List Token × Place) :=
  if cs.contains '\x00' then .error "source code string cannot contain null bytes"
  else tokensFrom (cs.length + 1) {} (withLines cs)

end ReviewRota.Console
