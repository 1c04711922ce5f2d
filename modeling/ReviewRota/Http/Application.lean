/-
  ReviewRota — the web application.

  A request passes the log, the rules for other origins and the routes before it
  reaches the service.  Every failure that has a meaning for clients becomes a
  response; any other is a plain server error.

  * `statusOf` is the status of a refusal, and `responseTo` the response to a
    failure;
  * `dispatch` answers a request that has a route or none;
  * `serve` answers any request, under the correlation id that it brings or a
    new one, and never fails;
  * `setUp`, `startUp` and `shutDown` are the stages of the application, and
    `lifetime` is all of them.
-/
import ReviewRota.Http.Call
import ReviewRota.Http.Cors
import ReviewRota.Service

namespace ReviewRota.Http

open Op

/-! ## Failures -/

/-- The status of a refused request. -/
def statusOf : Cause → Nat
  | .invalidArgument | .teamExists => 400
  | .userUnknown | .teamUnknown | .pullUnknown => 404
  | .pullExists | .pullMerged | .notAssigned | .noCandidate => 409
  | .unspecified | .internal | .entropyUnavailable | .invalidTransition => 500

/-- The response to a refused request; nothing tells what it is that is not
    there. -/
def refusal (path : String) (r : Refusal) : Op Response := do
  let status := statusOf r.cause
  if 500 ≤ status then report (.requestInternalError path r.message)
  else report (.requestRejected path r.cause.kind status)
  return .error status r.cause.code (if status = 404 then "resource not found" else r.message)

/-- The response to a failure of the store: a client may try again after one that
    passes. -/
def storeTrouble (path : String) (f : StoreFailure) : Op Response := do
  if f.isTransient then
    report (.requestStoreUnavailable path f.text)
    return .error 503 "UNAVAILABLE" "store unavailable"
  else
    report (.requestStoreError path f.family.name f.text)
    return .error 500 Cause.internal.code Cause.internal.wording

/-- The response to a failure, if it has one. -/
def responseTo (path : String) : Failure → Op Response
  | .refused r => refusal path r
  | .store f => storeTrouble path f
  | .timeout => do
    report (.requestDeadlineExceeded path)
    return .error 504 "DEADLINE_EXCEEDED" "deadline exceeded"
  | f => throw f

/-! ## Routes -/

/-- Work under a context that holds the given ids as well. -/
def binding (ids : Fields) (work : Op α) : Op α :=
  withReader (fun c => { c with context := ids.foldl (fun t f => t.bind f.1 f.2) c.context }) work

/-- The failure says that the store cannot be reached. -/
def isOutage : Failure → Bool
  | .store _ | .timeout | .system _ => true
  | _ => false

/-- The health check of the store: a session can be opened. -/
def readiness : Op Response :=
  tryCatch (do
      reach .openSession
      report .readinessPassed
      return .json 200 (.table [("status", .text "ok"), ("database", .text "connected")]))
    fun f =>
      if isOutage f then do
        report (.readinessFailed f.text)
        return .json 503 (.table [("status", .text "unhealthy"), ("database", .text "disconnected")])
      else throw f

/-- The answer of the service to a call. -/
def callService (path : String) (c : Call) : Op Response :=
  binding c.bound (tryCatch (do
      let a ← Service.perform c.request
      return .json c.status (c.document a))
    (responseTo path))

/-- The answer of a route. -/
def endpoint (path : String) (route : Route) (r : Incoming) : Op Response :=
  match route.call? r with
  | none =>
    match route with
    | .readiness => tryCatch readiness (responseTo path)
    | _ => return .json 200 (.table [("status", .text "ok")])
  | some (.undecodable, _) => return .detail 400 "There was an error parsing the body"
  | some (_, .value c) => callService path c
  | some (_, .flawed issues) => do
    report (.requestInvalid path issues.length)
    return .error 400 Cause.invalidArgument.code "invalid body"

/-- The answer to a request. -/
def dispatch (r : Incoming) : Op Response :=
  match resolve r.method r.target.path with
  | .taken route => endpoint r.target.logged route r
  | .wrongMethod allowed => return (Response.detail 405 "Method Not Allowed").adding [("allow", allowed)]
  | .elsewhere path => return ⟨307, [("location", address r.host path r.target.query)], .text ""⟩
  | .unknown => return .detail 404 "Not Found"

/-- The answer to a request from any origin. -/
def answer (origins : List String) (r : Incoming) : Op Response :=
  match Cors.preflight? origins r, r.header? "origin" with
  | some response, _ => return response
  | none, some origin => do
    return (← dispatch r).adding (Cors.originHeaders origins origin)
  | none, none => dispatch r

/-! ## The log around a request -/

/-- The header that names a request across programs. -/
def correlationHeader : String := "x-correlation-id"

/-- The correlation id of a request: its own, or a new one. -/
def correlation (fresh : String) (r : Incoming) : String :=
  (r.filledHeader? correlationHeader).getD fresh

/-- The response to a failure that no client can make sense of. -/
def serverError : Response := ⟨500, [], .text "Internal Server Error"⟩

/-- The answer to any request. -/
def serve (origins : List String) (fresh : String) (r : Incoming) : Op Response :=
  let id := correlation fresh r
  withReader (fun c => { c with context := ⟨some id, []⟩ }) (tryCatch (do
      let response ← answer origins r
      report (.requestCompleted r.method r.target.logged response.status)
      return (response.adding [(correlationHeader, id)]).sentTo r.method)
    fun f => do
      report (.requestFailed r.method r.target.logged f.text)
      return serverError.sentTo r.method)

/-! ## Setting up -/

/-- The name of the application. -/
def title : String := "Reviewpool"

/-- The version of the application. -/
def version : String := "0.1.0"

/-- The application is set up for the given origins. -/
def setUp (origins : List String) : Op Unit := report (.appCreated origins version)

/-- The application begins to listen, with a pool of connections to the
    database. -/
def startUp (s : Settings) : Op Unit := do
  report (.startupBegin s.web.host s.web.port)
  report (.poolInitialized s.database.poolSize s.database.maxOverflow)

/-- The application ends, and its connections with it. -/
def shutDown : Op Unit := do
  report .shutdownBegin
  report .poolDisposed

/-- The whole life of the application, in which it answers some requests. -/
def lifetime (s : Settings) (fresh : String) (requests : List Incoming) : Op (List Response) := do
  setUp s.web.corsOrigins
  startUp s
  let responses ← requests.mapM (serve s.web.corsOrigins fresh)
  shutDown
  return responses

end ReviewRota.Http
