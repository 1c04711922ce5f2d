/-
  ReviewRota — routes.

  Every route has one method and one path; two end in an id, which is the last
  step of the path.  The pages on which a web framework documents itself are left
  out: they ask the service for nothing.

  * `Route.ofPath?` finds the route of a path, and `Route.method` is its method;
  * `Resolution` says what becomes of a request: a route takes it, its method is
    not the one of the route, the path is known with or without a slash at its
    end, or nothing is known;
  * `resolve` decides that.
-/
import ReviewRota.Http.Message

namespace ReviewRota.Http

/-- Where a request goes. -/
inductive Route where
  | liveness
  | readiness
  | addTeam
  | showTeam
  | deactivateTeam
  | setActive
  | reviews
  | openPull
  | mergePull
  | reassign
  | overview
  | summary
  | reviewer (user : String)
  | pull (pull : String)
  deriving DecidableEq, Repr

namespace Route

/-- The paths without an id. -/
def fixed : List (String × Route) :=
  [("/health/", liveness), ("/health/ready", readiness), ("/team/add", addTeam),
    ("/team/get", showTeam), ("/team/deactivate", deactivateTeam),
    ("/users/setIsActive", setActive), ("/users/getReview", reviews),
    ("/pullRequest/create", openPull), ("/pullRequest/merge", mergePull),
    ("/pullRequest/reassign", reassign), ("/stats", overview), ("/stats/summary", summary)]

/-- The id that a path has after the given beginning: one step, not empty. -/
def idAfter? (beginning : String) (path : String) : Option String :=
  let id := path.toList.drop beginning.length
  if beginning.toList.isPrefixOf path.toList ∧ id ≠ [] ∧ !id.contains '/' then
    some (String.ofList id)
  else none

/-- The path without a line break at its end. -/
def withoutBreak (path : String) : String :=
  let cs := path.toList
  if cs.getLast? = some '\n' then String.ofList cs.dropLast else path

/-- The route of a path.  A line break at the end of a fixed path does not
    count. -/
def ofPath? (path : String) : Option Route :=
  fixed.lookup (withoutBreak path) <|> (idAfter? "/stats/reviewer/" path).map reviewer <|>
    (idAfter? "/stats/pr/" path).map pull

/-- The method of a route. -/
def method : Route → String
  | addTeam | deactivateTeam | setActive | openPull | mergePull | reassign => "POST"
  | _ => "GET"

end Route

/-- What becomes of a request. -/
inductive Resolution where
  | taken (route : Route)
  | wrongMethod (allowed : String)
  | elsewhere (path : String)
  | unknown
  deriving DecidableEq, Repr

/-- The path without the slashes at its end, or with one if there is none. -/
def toggleSlash (path : String) : String :=
  let cs := path.toList
  if cs.getLast? = some '/' then String.ofList (cs.reverse.dropWhile (· == '/')).reverse
  else path ++ "/"

/-- What becomes of a request with the given method and path. -/
def resolve (method path : String) : Resolution :=
  match Route.ofPath? path with
  | some route => if route.method = method then .taken route else .wrongMethod route.method
  | none =>
    let other := toggleSlash path
    if path ≠ "/" ∧ (Route.ofPath? other).isSome then .elsewhere other else .unknown

/-- The characters that an address may hold besides the unreserved ones. -/
def addressMarks : List Char := ":/%#?=@[]!$&'()*+,;".toList

/-- The address of a path on a host, with a query unless that is empty. -/
def address (host path query : String) : String :=
  percentEncode addressMarks
    ("http://" ++ host ++ addressPath path ++ (if query = "" then "" else "?" ++ query))

example : resolve "GET" "/stats/pr/p" = .taken (.pull "p") ∧
    resolve "GET" "/stats/pr/a/b" = .unknown ∧ resolve "GET" "/health" = .elsewhere "/health/" ∧
    resolve "HEAD" "/stats" = .wrongMethod "GET" := by decide +kernel

end ReviewRota.Http
