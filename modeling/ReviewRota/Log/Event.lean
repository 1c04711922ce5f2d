/-
  ReviewRota — log events.

  What the desk, the service in front of it, the web application and the command
  line report.  An event has a name, a level, the logger that writes it, perhaps
  the component that it comes from, and fields of its own.

  * `Event` is the closed list of events with their data;
  * `Event.name`, `Event.level`, `Event.logger`, `Event.component?` and
    `Event.fields` are the parts of the written entry;
  * `Event.reportsChange` holds of the events that report a change of the store.
-/
import ReviewRota.Datum
import ReviewRota.Log.Level
import ReviewRota.Store

namespace ReviewRota.Log

/-- A reported event. -/
inductive Event where
  | teamCreated (team : String) (members : Nat)
  | userActiveUpdated (user : String) (active : Bool)
  | pullDuplicate (pull : Option String)
  | pullCreated (pull author : String) (reviewers : List String) (poolSize : Nat)
  | notAssigned (pull : String) (leaving : Option String)
  | reviewerReassigned (pull leaving joining : String)
  | pullTransition (pull : String) (source target : Status)
  | pullMerged (pull : String) (alreadyMerged : Bool) (mergedAt : Option Moment)
  | slotRepaired (pull leaving : String) (joining : Option String)
  | teamDeactivated (team : String) (impacted : Option Nat) (deactivated reassigned removed : Nat)
  | timedOut (operation : String) (seconds : Binary)
  | appCreated (origins : List String) (version : String)
  | startupBegin (host : String) (port : Int)
  | poolInitialized (size overflow : Int)
  | shutdownBegin
  | poolDisposed
  | requestCompleted (method path : String) (status : Nat)
  | requestFailed (method path error : String)
  | requestRejected (path kind : String) (status : Nat)
  | requestInternalError (path error : String)
  | requestInvalid (path : String) (errors : Nat)
  | requestStoreUnavailable (path error : String)
  | requestStoreError (path errorType error : String)
  | requestDeadlineExceeded (path : String)
  | readinessFailed (error : String)
  | readinessPassed
  | schemaCreated (tables : List String)
  deriving DecidableEq, Repr

namespace Event

/-- The name of an event. -/
def name : Event → String
  | teamCreated .. => "team_created"
  | userActiveUpdated .. => "user_active_updated"
  | pullDuplicate .. => "pr_create_duplicate"
  | pullCreated .. => "pr_created"
  | notAssigned .. => "reviewer_not_assigned"
  | reviewerReassigned .. => "reviewer_reassigned"
  | pullTransition .. => "pr_transition"
  | pullMerged .. => "pr_merged"
  | slotRepaired .. => "cascade_slot_repaired"
  | teamDeactivated .. => "team_deactivated"
  | timedOut .. => "operation_timed_out"
  | appCreated .. => "app_created"
  | startupBegin .. => "app_startup_begin"
  | poolInitialized .. => "database_pool_initialized"
  | shutdownBegin => "app_shutdown_begin"
  | poolDisposed => "database_pool_disposed"
  | requestCompleted .. => "request_completed"
  | requestFailed .. => "request_failed"
  | requestRejected .. => "request_rejected"
  | requestInternalError .. => "request_internal_error"
  | requestInvalid .. => "request_invalid"
  | requestStoreUnavailable .. => "request_store_unavailable"
  | requestStoreError .. => "request_store_error"
  | requestDeadlineExceeded .. => "request_deadline_exceeded"
  | readinessFailed .. => "readiness_check_failed"
  | readinessPassed => "readiness_check_passed"
  | schemaCreated .. => "schema_created"

/-- The level of an event. -/
def level : Event → Level
  | slotRepaired .. | readinessPassed => .debug
  | pullDuplicate .. | notAssigned .. | timedOut .. | requestDeadlineExceeded ..
  | readinessFailed .. => .warning
  | requestFailed .. | requestInternalError .. | requestStoreUnavailable ..
  | requestStoreError .. => .error
  | _ => .info

/-- The logger that writes an event. -/
def logger : Event → String
  | appCreated .. | startupBegin .. | poolInitialized .. | shutdownBegin | poolDisposed =>
    "reviewpool.web.app"
  | requestCompleted .. | requestFailed .. => "reviewpool.web.middleware"
  | requestRejected .. | requestInternalError .. | requestInvalid .. | requestStoreUnavailable ..
  | requestStoreError .. | requestDeadlineExceeded .. => "reviewpool.web.errors"
  | readinessFailed .. | readinessPassed => "reviewpool.web.routes.health"
  | schemaCreated .. => "reviewpool.main"
  | _ => "reviewpool.engine.service"

/-- The component of the service that an event comes from. -/
def component? : Event → Option String
  | teamCreated .. | userActiveUpdated .. => some "MembershipStore"
  | pullDuplicate .. | pullCreated .. | notAssigned .. | reviewerReassigned .. =>
    some "AssignmentEngine"
  | pullTransition .. | pullMerged .. => some "PRStateMachine"
  | slotRepaired .. | teamDeactivated .. => some "DeactivationCascade"
  | timedOut .. => some "ReviewService"
  | _ => none

/-- The data of an event. -/
def fields : Event → Fields
  | teamCreated team members => [("team_name", .text team), ("members", .int members)]
  | userActiveUpdated user active => [("user_id", .text user), ("is_active", .bool active)]
  | pullDuplicate pull => [("pr_id", .text? pull)]
  | pullCreated pull author reviewers poolSize =>
    [("pr_id", .text pull), ("author_id", .text author), ("reviewers", .texts reviewers),
      ("pool_size", .int poolSize)]
  | notAssigned pull leaving => [("pr_id", .text pull), ("old_reviewer_id", .text? leaving)]
  | reviewerReassigned pull leaving joining =>
    [("pr_id", .text pull), ("old_reviewer_id", .text leaving), ("new_reviewer_id", .text joining)]
  | pullTransition pull source target =>
    [("pr_id", .text pull), ("from_status", .text source.name), ("to_status", .text target.name)]
  | pullMerged pull alreadyMerged mergedAt =>
    [("pr_id", .text pull), ("already_merged", .bool alreadyMerged),
      ("merged_at", .text? (mergedAt.map Moment.iso))]
  | slotRepaired pull leaving joining =>
    [("pr_id", .text pull), ("old_reviewer_id", .text leaving), ("new_reviewer_id", .text? joining)]
  | teamDeactivated team impacted deactivated reassigned removed =>
    [("team_name", .text team)] ++
      (match impacted with | some n => [("impacted_prs", .int n)] | none => []) ++
      [("deactivated_users", .int deactivated), ("reassigned", .int reassigned),
        ("removed", .int removed)]
  | timedOut operation seconds =>
    [("operation", .text operation), ("timeout_seconds", .real (.finite seconds))]
  | appCreated origins version => [("cors_origins", .texts origins), ("version", .text version)]
  | startupBegin host port => [("host", .text host), ("port", .int port)]
  | poolInitialized size overflow => [("pool_size", .int size), ("max_overflow", .int overflow)]
  | shutdownBegin | poolDisposed => []
  | requestCompleted method path status =>
    [("method", .text method), ("path", .text path), ("status_code", .int status)]
  | requestFailed method path error =>
    [("method", .text method), ("path", .text path), ("error", .text error)]
  | requestRejected path kind status =>
    [("path", .text path), ("kind", .text kind), ("status_code", .int status)]
  | requestInternalError path error => [("path", .text path), ("error", .text error)]
  | requestInvalid path errors => [("path", .text path), ("errors", .int errors)]
  | requestStoreUnavailable path error => [("path", .text path), ("error", .text error)]
  | requestStoreError path errorType error =>
    [("path", .text path), ("error_type", .text errorType), ("error", .text error)]
  | requestDeadlineExceeded path => [("path", .text path)]
  | readinessFailed error => [("database", .text "disconnected"), ("error", .text error)]
  | readinessPassed => [("database", .text "connected")]
  | schemaCreated tables => [("tables", .texts tables)]

/-- The event reports a change of the store. -/
def reportsChange : Event → Bool
  | teamCreated .. | userActiveUpdated .. | pullCreated .. | reviewerReassigned ..
  | pullTransition .. | pullMerged .. | teamDeactivated .. => true
  | _ => false

end Event

end ReviewRota.Log
