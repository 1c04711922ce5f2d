/-
  ReviewRota — calls of the service.

  Every route but the two of the health check is one request to the service.

  * `Call` is that request, what it binds to the log, and the form of its
    success: the status and the document of the answer;
  * `Route.call` reads the call of a route from a request.
-/
import ReviewRota.Http.Body
import ReviewRota.Http.Route
import ReviewRota.Reading.Form
import ReviewRota.Request

namespace ReviewRota.Http

/-- The document of an answer of the service. -/
def answerDatum : Answer → Datum
  | .team view => view.datum
  | .user view => view.datum
  | .reviews pulls => .list (pulls.map PullBrief.datum)
  | .pull view => .table [("pr", view.datum "createdAt" "mergedAt")]
  | .replaced view joining =>
    .table [("pr", view.datum "createdAt" "mergedAt"), ("replaced_by", .text joining)]
  | .deactivation counts => counts.datum
  | .overview counts => counts.datum
  | .summary counts => counts.datum
  | .reviewer report => report.datum
  | .report report => report.datum

/-- A request to the service. -/
structure Call where
  request : Request Argument
  bound : Fields := []
  status : Nat := 200
  document : Answer → Datum := answerDatum

/-- A document with an answer under a name. -/
def enclosed (name : String) (a : Answer) : Datum := .table [(name, answerDatum a)]

/-- The call of a form with one id, bound to the log under a name. -/
def callOn (bound : String) (field : String) (request : Argument → Request Argument)
    (fs : Fields) : Reading Call :=
  Reading.map (fun id => { request := request id, bound := [(bound, id.datum)] })
    (fs.read field Argument.read)

/-- The call of a form that adds a team. -/
def addTeamCall (fs : Fields) : Reading Call :=
  (fun team members =>
    { request := .createTeam team members, bound := [("team_name", team.datum)],
      status := 201, document := enclosed "team" }) <$>
    fs.read "team_name" Argument.read <*> fs.readOr "members" [] (.listOf MemberEntry.read)

/-- The call of a form that deactivates a team, blanks around the name left
    aside. -/
def deactivateTeamCall (fs : Fields) : Reading Call :=
  Reading.map (fun name =>
    let team := name.trimmed
    { request := .deactivateTeam team, bound := [("team_name", team.datum)] })
    (fs.read "team_name" Argument.read)

/-- The call of a form that sets the flag of a user. -/
def setActiveCall (fs : Fields) : Reading Call :=
  (fun user active =>
    { request := .setUserActive user active, bound := [("user_id", user.datum)],
      document := enclosed "user" }) <$>
    fs.read "user_id" Argument.read <*> fs.read "is_active" .flag

/-- The call of a form that opens a pull request. -/
def openPullCall (fs : Fields) : Reading Call :=
  (fun pull title author =>
    { request := .openPull pull title author, bound := [("pr_id", pull.datum)], status := 201 }) <$>
    fs.read "pull_request_id" Argument.read <*> fs.read "pull_request_name" Argument.read <*>
    fs.read "author_id" Argument.read

/-- The call of a form that replaces a reviewer. -/
def reassignCall (fs : Fields) : Reading Call :=
  (fun pull leaving =>
    { request := .replaceReviewer pull leaving, bound := [("pr_id", pull.datum)] }) <$>
    fs.read "pull_request_id" Argument.read <*> fs.read "old_user_id" Argument.read

/-- The call of a query for the reviews of a user, who is named in the answer. -/
def reviewsCall (fs : Fields) : Reading Call :=
  Reading.map (fun user =>
    { request := .reviewsOf (.text user),
      document := fun a => .table [("user_id", .text user), ("pull_requests", answerDatum a)] })
    (fs.read "user_id" .text)

/-- The call of a route; the routes of the health check have none. -/
def Route.call? (route : Route) (r : Incoming) : Option (Body × Reading Call) :=
  let body := readBody r
  let ofBody (read : Fields → Reading Call) := some (body, body.form read)
  let ofQuery (read : Fields → Reading Call) := some (Body.empty, read r.query)
  match route with
  | .liveness | .readiness => none
  | .addTeam => ofBody addTeamCall
  | .deactivateTeam => ofBody deactivateTeamCall
  | .setActive => ofBody setActiveCall
  | .openPull => ofBody openPullCall
  | .mergePull => ofBody (callOn "pr_id" "pull_request_id" .merge)
  | .reassign => ofBody reassignCall
  | .showTeam => ofQuery fun fs => Reading.map
      (fun team => { request := .showTeam (.text team) }) (fs.read "team_name" .text)
  | .reviews => ofQuery reviewsCall
  | .overview => ofQuery fun _ => .value { request := .overview }
  | .summary => ofQuery fun fs => Reading.map
      (fun filter => { request := .summary filter }) (SummaryFilter.readFields "from" "to" fs)
  | .reviewer id => ofQuery fun fs => Reading.map
      (fun limit => { request := .reviewerReport (.text id) limit }) (fs.readOr "limit" 0 .integer)
  | .pull id => ofQuery fun _ => .value { request := .pullReport (.text id) }

end ReviewRota.Http
