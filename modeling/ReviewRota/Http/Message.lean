/-
  ReviewRota — requests and responses of the web application.

  * `Incoming` is a request as it arrives, and `Incoming.header?` finds a header,
    whose name has no case;
  * `Response` is what is sent back: a status, headers and a content;
  * `Response.error` is the answer to a request that failed, with a code and a
    message, and `Response.detail` the answer to one that no route takes.
-/
import ReviewRota.Http.Target
import ReviewRota.Text.Case

namespace ReviewRota.Http

/-- A request. -/
structure Incoming where
  method : String
  target : Target
  headers : List (String × String) := []
  body : List UInt8 := []
  deriving DecidableEq, Repr

namespace Incoming

/-- The first header of the name, in whatever case it is written. -/
def header? (r : Incoming) (name : String) : Option String :=
  (r.headers.find? fun h => Text.sameLetters h.1 name).map Prod.snd

/-- The header of the name, unless it is empty. -/
def filledHeader? (r : Incoming) (name : String) : Option String :=
  (r.header? name).filter (· ≠ "")

/-- The host that a request names, or the usual one. -/
def host (r : Incoming) : String := (r.header? "host").getD "test"

/-- The names and values of the query, the last of each name only. -/
def query (r : Incoming) : Fields :=
  Fields.ofEntries ((queryPairs r.target.query).map fun p => (p.1, .text p.2))

end Incoming

/-- What a response holds. -/
inductive Content where
  | json (d : Datum)
  | text (s : String)
  deriving Repr

/-- A response. -/
structure Response where
  status : Nat
  headers : List (String × String) := []
  content : Content
  deriving Repr

namespace Response

/-- A document. -/
def json (status : Nat) (d : Datum) : Response := { status, content := .json d }

/-- The document of a failed request. -/
def errorDatum (code message : String) : Datum :=
  .table [("error", .table [("code", .text code), ("message", .text message)])]

/-- A failed request. -/
def error (status : Nat) (code message : String) : Response :=
  json status (errorDatum code message)

/-- A request that no route takes. -/
def detail (status : Nat) (reason : String) : Response :=
  json status (.table [("detail", .text reason)])

/-- The response with more headers. -/
def adding (r : Response) (headers : List (String × String)) : Response :=
  { r with headers := r.headers ++ headers }

/-- The response as it is sent to the method: `HEAD` gets no content. -/
def sentTo (method : String) (r : Response) : Response :=
  if method = "HEAD" then { r with content := .text "" } else r

end Response

end ReviewRota.Http
