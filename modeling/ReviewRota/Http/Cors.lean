/-
  ReviewRota — cross-origin requests.

  A browser names the origin of a page in a header.  The answer to such a request
  says whether pages of that origin may use it.  Before some requests a browser
  asks whether it may send them.

  * `allows` tells whether an origin is among the allowed ones, `*` standing for
    all;
  * `originHeaders` is what an answer says of an origin;
  * `preflight?` answers a browser's question.
-/
import ReviewRota.Http.Message

namespace ReviewRota.Http.Cors

/-- Pages of the origin may use the answers. -/
def allows (origins : List String) (origin : String) : Bool :=
  origins.contains "*" || origins.contains origin

/-- What an answer says of the origin. -/
def originHeaders (origins : List String) (origin : String) : List (String × String) :=
  (if allows origins origin then [("access-control-allow-origin", origin)] else []) ++
    [("access-control-allow-credentials", "true")]

/-- The methods that pages may use. -/
def methods : List String := ["DELETE", "GET", "HEAD", "OPTIONS", "PATCH", "POST", "PUT", "QUERY"]

/-- The answer to a browser that asks whether it may send a request from an
    origin, perhaps one from a public page to a private network, which it may
    not. -/
def preflight (origins : List String) (origin method : String) (headers : Option String)
    (toPrivate : Bool) : Response :=
  let refused := (if allows origins origin then [] else ["origin"]) ++
    (if methods.contains method then [] else ["method"]) ++
    (if toPrivate then ["private-network"] else [])
  let allowed := originHeaders origins origin ++
    [("access-control-allow-methods", ", ".intercalate methods)] ++
    (match headers with
      | some h => [("access-control-allow-headers", h)]
      | none => [])
  if refused.isEmpty then ⟨200, allowed, .text "OK"⟩
  else ⟨400, allowed, .text ("Disallowed CORS " ++ ", ".intercalate refused)⟩

/-- The answer to a browser's question, if the request is one. -/
def preflight? (origins : List String) (r : Incoming) : Option Response := do
  let origin ← r.header? "origin"
  let method ← r.header? "access-control-request-method"
  if r.method = "OPTIONS" then
    some (preflight origins origin method (r.header? "access-control-request-headers")
      (r.header? "access-control-request-private-network").isSome)
  else none

end ReviewRota.Http.Cors
