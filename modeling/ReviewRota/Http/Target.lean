/-
  ReviewRota — request targets.

  A target names what a request is about: a path and a query.  Both are written
  with percent escapes, which stand for bytes of UTF-8.

  * `percentDecode` and `percentEncode` read and write the escapes;
  * `Target.ofText` reads a target: steps `.` and `..` of the path as they are
    written are carried out, then the escapes are read, so that an escaped slash
    is a slash of the path;
  * `queryPairs` reads a query, and `formQuery` writes one.
-/
import ReviewRota.Datum.Json
import ReviewRota.Text.Encoding

namespace ReviewRota.Http

/-! ## Percent escapes -/

/-- The bytes of a text in which `%` and two hexadecimal digits stand for a
    byte; a `%` without them stands for itself. -/
def escapedBytes : List Char → List UInt8
  | [] => []
  | c :: cs =>
    match c, cs with
    | '%', a :: b :: rest =>
      match Json.hexDigit? a, Json.hexDigit? b with
      | some x, some y => (16 * x + y).toUInt8 :: escapedBytes rest
      | _, _ => Text.encodeUtf8 '%' ++ escapedBytes (a :: b :: rest)
    | c, cs => Text.encodeUtf8 c ++ escapedBytes cs

/-- The text with its escapes read; bytes that are no UTF-8 become `U+FFFD`. -/
def percentDecode (s : String) : String := Text.utf8Lenient (escapedBytes s.toList)

/-- A hexadecimal digit in capitals. -/
def capitalHexDigit (n : Nat) : Char := if n < 10 then Char.ofNat (48 + n) else Char.ofNat (55 + n)

/-- The escape of a byte. -/
def escapeByte (b : UInt8) : List Char :=
  ['%', capitalHexDigit (b.toNat / 16), capitalHexDigit (b.toNat % 16)]

/-- The characters that never need an escape: letters and digits of ASCII, `-`,
    `.`, `_` and `~`. -/
def isUnreserved (c : Char) : Bool :=
  c.isAlphanum || c == '-' || c == '.' || c == '_' || c == '~'

/-- The text with every character escaped that is neither unreserved nor one of
    the given ones. -/
def percentEncode (safe : List Char) (s : String) : String :=
  String.ofList (s.toList.flatMap fun c =>
    if isUnreserved c || safe.contains c then [c] else (Text.encodeUtf8 c).flatMap escapeByte)

/-! ## Queries -/

/-- The value of a piece of a query: `+` is a space, and escapes are read. -/
def formDecode (cs : List Char) : String :=
  percentDecode (String.ofList (cs.map fun c => if c = '+' then ' ' else c))

/-- The names and values of a query.  A piece without `=` has the empty value, an
    empty piece is left aside. -/
def queryPairs (query : String) : List (String × String) :=
  ((query.toList.splitOn '&').filter (!·.isEmpty)).map fun piece =>
    (formDecode (piece.takeWhile (· != '=')), formDecode ((piece.dropWhile (· != '=')).drop 1))

/-- A piece of a query: a space is `+`, all but unreserved characters are
    escaped. -/
def formEncode (s : String) : String :=
  " ".intercalate ((s.toList.splitOn ' ').map fun w => percentEncode [] (String.ofList w))
    |>.map fun c => if c = ' ' then '+' else c

/-- The query with the given names and values. -/
def formQuery (pairs : List (String × String)) : String :=
  "&".intercalate (pairs.map fun p => formEncode p.1 ++ "=" ++ formEncode p.2)

/-! ## Targets -/

/-- What a request is about: the path with its escapes read, and the query as it
    is written. -/
structure Target where
  path : String
  query : String := ""
  deriving DecidableEq, Repr

/-- The steps of a path with `.` and `..` carried out: `..` takes the step before
    it away, but never the root. -/
def walk : List (List Char) → List (List Char) → List (List Char)
  | done, [] => done
  | done, step :: steps =>
    if step = ['.'] then walk done steps
    else if step = ['.', '.'] then
      walk (if done = [[]] then done else done.dropLast) steps
    else walk (done ++ [step]) steps

/-- The written path without steps `.` and `..`. -/
def straightPath (cs : List Char) : List Char :=
  ((walk [] (cs.splitOn '/')).intersperse ['/']).flatten

/-- The text after a host at its front, if two slashes announce one. -/
def withoutHost : List Char → List Char
  | '/' :: '/' :: cs => cs.dropWhile fun c => c != '/' && c != '?' && c != '#'
  | cs => cs

/-- The target that a text writes; what follows `#` does not belong to it. -/
def Target.ofText (s : String) : Target :=
  let cs := (withoutHost s.toList).takeWhile (· != '#')
  let path := straightPath ('/' :: (cs.takeWhile (· != '?')).dropWhile (· == '/'))
  let query := (cs.dropWhile (· != '?')).drop 1
  ⟨if path.isEmpty then "/" else percentDecode (String.ofList path), String.ofList query⟩

/-- The path as it stands in an address: a question mark, a number sign and a
    backslash are escaped, which would end it otherwise. -/
def addressPath (path : String) : String :=
  String.ofList (path.toList.flatMap fun c =>
    if c = '?' ∨ c = '#' ∨ c = '\\' then (Text.encodeUtf8 c).flatMap escapeByte else [c])

/-- The path as the log shows it: as in an address, without line breaks and
    tabs. -/
def Target.logged (t : Target) : String :=
  String.ofList ((addressPath t.path).toList.filter fun c => c != '\t' && c != '\n' && c != '\r')

example : (Target.ofText "/stats/pr/a%2Fb?x=1").path = "/stats/pr/a/b" ∧
    (Target.ofText "/stats/../team/./get").path = "/team/get" ∧
    (Target.ofText "/stats/%2E%2E/x").path = "/stats/../x" := by decide +kernel
example : queryPairs "a=1&&b+c=%C3%BC&d" = [("a", "1"), ("b c", "ü"), ("d", "")] := by
  decide +kernel

end ReviewRota.Http
