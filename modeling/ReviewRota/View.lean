/-
  ReviewRota — results.

  What the operations answer.  Results hold copies of rows, never the rows
  themselves: a pull request is shown with the ids of its reviewers, a user with
  the name of the team.

  * `TeamView`, `UserView`, `PullView`, `PullBrief` show rows;
  * `Deactivation` counts what the deactivation of a team did;
  * `Overview`, `Summary`, `ReviewerReport` and `PullReport` are statistics;
  * each has a `datum`, which names its parts as clients know them.
-/
import ReviewRota.Datum
import ReviewRota.Store

namespace ReviewRota

/-! ## Rows -/

/-- The member entry of a user. -/
def User.member (u : User) : Member := ⟨u.id, u.name, u.active⟩

/-- A team with its members. -/
structure TeamView where
  team : String
  members : List Member
  deriving DecidableEq, Repr

/-- A user with the name of the team. -/
structure UserView where
  id : String
  name : String
  team : String
  active : Bool
  deriving DecidableEq, Repr

/-- A pull request with its reviewers. -/
structure PullView where
  id : String
  title : String
  author : String
  status : Status
  reviewers : List String
  createdAt : Moment
  mergedAt : Option Moment
  deriving DecidableEq, Repr

/-- A pull request as it stands in lists. -/
structure PullBrief where
  id : String
  title : String
  author : String
  status : Status
  deriving DecidableEq, Repr

/-- A pull request shown with the given reviewers. -/
def PullRequest.view (p : PullRequest) (reviewers : List String) : PullView :=
  ⟨p.id, p.title, p.author, p.status, reviewers, p.createdAt, p.mergedAt⟩

/-- A pull request as it stands in lists. -/
def PullRequest.brief (p : PullRequest) : PullBrief := ⟨p.id, p.title, p.author, p.status⟩

/-- What the deactivation of a team did: users switched off, reviews handed to
    somebody else, and reviews dropped. -/
structure Deactivation where
  deactivated : Nat := 0
  reassigned : Nat := 0
  removed : Nat := 0
  deriving DecidableEq, Repr, Inhabited

/-- The counters after one more review was repaired. -/
def Deactivation.count (d : Deactivation) : Option String → Deactivation
  | some _ => { d with reassigned := d.reassigned + 1 }
  | none => { d with removed := d.removed + 1 }

/-! ## Statistics -/

/-- Assignments by user, by pull request and by team, and pull requests by
    status. -/
structure Overview where
  byUser : List (String × Nat)
  byPull : List (String × Nat)
  byStatus : List (Status × Nat)
  byTeam : List (String × Nat)
  deriving DecidableEq, Repr

/-- The busiest reviewers, pull requests by status and assignments by team. -/
structure Summary where
  reviewers : List (String × Nat)
  statuses : List (Status × Nat)
  teams : List (String × Nat)
  deriving DecidableEq, Repr

/-- The reviews of one user. -/
structure ReviewerReport where
  user : String
  assigned : Nat
  opened : Nat
  merged : Nat
  recent : List PullBrief
  deriving DecidableEq, Repr

/-- A pull request with its reviewers and its history, newest first. -/
structure PullReport where
  id : String
  title : String
  author : String
  status : Status
  reviewers : List String
  createdAt : Moment
  mergedAt : Option Moment
  handovers : List Handover
  deriving DecidableEq, Repr

/-! ## As documents -/

/-- The document of a member. -/
def Member.datum (m : Member) : Datum :=
  .table [("user_id", .text m.userId), ("username", .text m.username), ("is_active", .bool m.active)]

/-- The document of a team. -/
def TeamView.datum (t : TeamView) : Datum :=
  .table [("team_name", .text t.team), ("members", .list (t.members.map Member.datum))]

/-- The document of a user. -/
def UserView.datum (u : UserView) : Datum :=
  .table [("user_id", .text u.id), ("username", .text u.name), ("team_name", .text u.team),
    ("is_active", .bool u.active)]

/-- The document of a time. -/
def Moment.datum (m : Moment) : Datum := .text m.iso

/-- The document of a time that may be missing. -/
def Moment.datum? (m : Option Moment) : Datum := .text? (m.map Moment.iso)

/-- The document of a pull request, with the names under which its two times
    stand there. -/
def PullView.datum (created merged : String) (p : PullView) : Datum :=
  .table [("pull_request_id", .text p.id), ("pull_request_name", .text p.title),
    ("author_id", .text p.author), ("status", .text p.status.name),
    ("assigned_reviewers", .texts p.reviewers), (created, p.createdAt.datum),
    (merged, Moment.datum? p.mergedAt)]

/-- The document of a pull request in a list. -/
def PullBrief.datum (p : PullBrief) : Datum :=
  .table [("pull_request_id", .text p.id), ("pull_request_name", .text p.title),
    ("author_id", .text p.author), ("status", .text p.status.name)]

/-- The document of the counters of a deactivation. -/
def Deactivation.datum (d : Deactivation) : Datum :=
  .table [("deactivated_users", .int d.deactivated), ("reassigned", .int d.reassigned),
    ("removed", .int d.removed)]

/-- The document of counts, each entry with the names of its key and count. -/
def countsDatum (key count : String) (counts : List (String × Nat)) : Datum :=
  .list (counts.map fun c => .table [(key, .text c.1), (count, .int c.2)])

/-- The counts with the statuses by name. -/
def byStatusName (counts : List (Status × Nat)) : List (String × Nat) :=
  counts.map fun c => (c.1.name, c.2)

/-- The document of an overview. -/
def Overview.datum (o : Overview) : Datum :=
  .table [("by_user", countsDatum "user_id" "assign_cnt" o.byUser),
    ("by_pr", countsDatum "pr_id" "assign_cnt" o.byPull),
    ("by_status", countsDatum "status" "pr_count" (byStatusName o.byStatus)),
    ("by_team", countsDatum "team_name" "assign_cnt" o.byTeam)]

/-- The document of a summary. -/
def Summary.datum (s : Summary) : Datum :=
  .table [("top_reviewers", countsDatum "user_id" "assign_cnt" s.reviewers),
    ("pr_status_counts", countsDatum "status" "pr_count" (byStatusName s.statuses)),
    ("team_assignments", countsDatum "team_name" "assign_cnt" s.teams)]

/-- The document of the reviews of a user. -/
def ReviewerReport.datum (r : ReviewerReport) : Datum :=
  .table [("user_id", .text r.user), ("assign_cnt", .int r.assigned), ("open_pr_cnt", .int r.opened),
    ("merged_pr_cnt", .int r.merged), ("recent_prs", .list (r.recent.map PullBrief.datum))]

/-- The document of an entry of the history. -/
def Handover.datum (h : Handover) : Datum :=
  .table [("old_reviewer_id", .text h.leaving), ("new_reviewer_id", .text? h.joining),
    ("changed_at", h.changedAt.datum)]

/-- The document of a pull request with its history. -/
def PullReport.datum (p : PullReport) : Datum :=
  .table [("pr_id", .text p.id), ("pr_name", .text p.title), ("author_id", .text p.author),
    ("status", .text p.status.name), ("reviewers", .texts p.reviewers),
    ("created_at", p.createdAt.datum), ("merged_at", Moment.datum? p.mergedAt),
    ("reassignments", .list (p.handovers.map Handover.datum)),
    ("transfer_cnt", .int p.handovers.length)]

end ReviewRota
