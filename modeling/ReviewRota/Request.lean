/-
  ReviewRota — requests.

  The twelve requests that the service takes, and their answers.

  * `Request` is a request, and `Request.complete?` the one whose texts are all
    texts;
  * `Request.objection?` is the check: the texts that a request needs, in the order
    in which they are looked at, must hold more than blanks;
  * `Answer` is what a request yields.
-/
import ReviewRota.Argument
import ReviewRota.Store.Tally
import ReviewRota.View

namespace ReviewRota

/-- The member entry, if its texts are texts. -/
def MemberEntry.complete? (m : MemberEntry Argument) : Option Member := do
  return ⟨← m.userId.text?, ← m.username.text?, m.active⟩

/-! ## Requests -/

/-- A request; `τ` is the type of its texts. -/
inductive Request (τ : Type) where
  | createTeam (team : τ) (members : List (MemberEntry τ))
  | showTeam (team : τ)
  | setUserActive (user : τ) (active : Bool)
  | reviewsOf (user : τ)
  | openPull (pull title author : τ)
  | replaceReviewer (pull leaving : τ)
  | merge (pull : τ)
  | deactivateTeam (team : τ)
  | overview
  | summary (filter : SummaryFilter)
  | reviewerReport (user : τ) (limit : Int)
  | pullReport (pull : τ)
  deriving DecidableEq, Repr

/-- What a request yields. -/
inductive Answer where
  | team (view : TeamView)
  | user (view : UserView)
  | reviews (pulls : List PullBrief)
  | pull (view : PullView)
  | replaced (view : PullView) (joining : String)
  | deactivation (counts : Deactivation)
  | overview (counts : Overview)
  | summary (counts : Summary)
  | reviewer (report : ReviewerReport)
  | report (report : PullReport)
  deriving DecidableEq, Repr

namespace Request

/-- The name of a request in the log. -/
def name : Request τ → String
  | createTeam .. => "create_team"
  | showTeam .. => "get_team"
  | setUserActive .. => "set_user_active"
  | reviewsOf .. => "list_reviewed_prs"
  | openPull .. => "create_pr"
  | replaceReviewer .. => "reassign_reviewer"
  | merge .. => "merge_pr"
  | deactivateTeam .. => "deactivate_team"
  | overview => "global_stats"
  | summary .. => "summary"
  | reviewerReport .. => "reviewer_stats"
  | pullReport .. => "pr_stats"

/-- The request, if all its texts are texts. -/
def complete? : Request Argument → Option (Request String)
  | createTeam team members => do
    return .createTeam (← team.text?) (← members.mapM MemberEntry.complete?)
  | showTeam team => team.text?.map .showTeam
  | setUserActive user active => user.text?.map fun user => .setUserActive user active
  | reviewsOf user => user.text?.map .reviewsOf
  | openPull pull title author => do
    return .openPull (← pull.text?) (← title.text?) (← author.text?)
  | replaceReviewer pull leaving => do return .replaceReviewer (← pull.text?) (← leaving.text?)
  | merge pull => pull.text?.map .merge
  | deactivateTeam team => team.text?.map .deactivateTeam
  | overview => some .overview
  | summary filter => some (.summary filter)
  | reviewerReport user limit => user.text?.map fun user => .reviewerReport user limit
  | pullReport pull => pull.text?.map .pullReport

/-! ## The check -/

/-- The arguments that a request needs, by name, in the order in which they are
    looked at. -/
def required : Request Argument → List (String × Argument)
  | createTeam team members => ("team_name", team) :: members.map fun m => ("user_id", m.userId)
  | showTeam team | deactivateTeam team => [("team_name", team)]
  | setUserActive user _ | reviewsOf user | reviewerReport user _ => [("user_id", user)]
  | openPull pull title author =>
    [("pull_request_id", pull), ("pull_request_name", title), ("author_id", author)]
  | replaceReviewer pull leaving => [("pull_request_id", pull), ("old_user_id", leaving)]
  | merge pull | pullReport pull => [("pull_request_id", pull)]
  | overview | summary _ => []

/-- The refusal of a request that lacks a text: it names the first one. -/
def objection? (r : Request Argument) : Option Refusal :=
  (r.required.find? fun a => a.2.isBlank).map fun a => .required a.1

end Request

end ReviewRota
