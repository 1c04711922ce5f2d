/-
  ReviewRota — request bodies.

  A body is read as JSON if its media type says so; any other body is taken as it
  is and fits no form.

  * `isJson` tells the media types of JSON: `application/json` and those whose
    second part ends in `+json`, in any case, with or without parameters;
  * `Body` is what a body turns out to be, and `readBody` finds out;
  * `Body.form` reads a form from it.
-/
import ReviewRota.Http.Message
import ReviewRota.Reading

namespace ReviewRota.Http

/-- The media type is one of JSON. -/
def isJson (mediaType : String) : Bool :=
  let kind := (Text.lower (Text.trim (String.ofList (mediaType.toList.takeWhile (· != ';'))))).toList
  match kind.splitOn '/' with
  | [main, sub] =>
    main == "application".toList && (sub == "json".toList || "+json".toList.isSuffixOf sub)
  | _ => false

/-- What a body turns out to be; one that is too large in a way that JSON does not
    forbid is undecodable as well. -/
inductive Body where
  | empty
  | document (d : Datum)
  | foreign
  | malformed
  | undecodable
  deriving Repr

/-- The body of a request. -/
def readBody (r : Incoming) : Body :=
  if r.body.isEmpty then .empty
  else if (r.header? "content-type").any isJson then
    match (Json.decode r.body).map Json.parsePoints with
    | some (.ok .null) => .empty
    | some (.ok d) => .document d
    | some (.error .malformed) => .malformed
    | _ => .undecodable
  else .foreign

/-- A form, read from the table of a body; a body that is no table has one
    flaw. -/
def Body.form (read : Fields → Reading α) : Body → Reading α
  | .document (.table fs) => read fs
  | .empty => .flaw .missing .null
  | .document d => .flaw .notMember d
  | _ => .flaw .notMember .null

end ReviewRota.Http
