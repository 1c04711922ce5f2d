/-
  ReviewRota — the store.

  Teams and their members, pull requests, who reviews them now, and the history
  of reviewers who left.  A store is five lists of rows, each in the order in
  which its rows were added.  A team is known by its name, which never changes.
  Nothing checks that a row which another row names exists: that is the work of
  the operations.

  * `Store` and its rows: `Team`, `User`, `PullRequest`, `Assignment`, `Handover`;
  * look-ups by key: `team?`, `user?`, `pull?`;
  * writes: `addTeam`, `putMember`, `setActive`, `switchOff`, `addPull`,
    `setStatus`, `assign`, `unassign`, `record`.  The ones that add a row refuse
    a key that is taken; the others leave the order of the rows alone.
-/
import ReviewRota.Failure
import ReviewRota.Moment

namespace ReviewRota

/-! ## Rows -/

/-- The state of a pull request: reviewers may change while it is open, and a
    merged one is final. -/
inductive Status where
  | opened
  | merged
  deriving DecidableEq, Repr

namespace Status

/-- The name of a status. -/
def name : Status → String
  | opened => "OPEN"
  | merged => "MERGED"

/-- The status of a name. -/
def ofName? (s : String) : Option Status :=
  if s = "OPEN" then some opened else if s = "MERGED" then some merged else none

theorem ofName?_name (s : Status) : ofName? s.name = some s := by cases s <;> rfl

end Status

/-- A named group of users who review each other's pull requests. -/
structure Team where
  name : String
  createdAt : Moment
  updatedAt : Moment
  deriving DecidableEq, Repr

/-- A member of a team.  Only an active user authors pull requests or is picked
    as a reviewer. -/
structure User where
  id : String
  name : String
  team : String
  active : Bool
  createdAt : Moment
  updatedAt : Moment
  deriving DecidableEq, Repr

/-- A pull request; its reviewers are assignment rows. -/
structure PullRequest where
  id : String
  title : String
  author : String
  status : Status
  createdAt : Moment
  mergedAt : Option Moment
  deriving DecidableEq, Repr

/-- One reviewer of one pull request, now. -/
structure Assignment where
  pull : String
  reviewer : String
  assignedAt : Moment
  deriving DecidableEq, Repr

/-- One reviewer who left a pull request, and who took the place, if anyone. -/
structure Handover where
  pull : String
  leaving : String
  joining : Option String
  changedAt : Moment
  deriving DecidableEq, Repr

/-- A member entry; `τ` is the type of its texts. -/
structure MemberEntry (τ : Type) where
  userId : τ
  username : τ
  active : Bool := true
  deriving DecidableEq, Repr

/-- A member of a team as submitted and as shown. -/
abbrev Member := MemberEntry String

/-- The user row after a member entry was submitted for it. -/
def User.submitted (u : User) (team : String) (m : Member) (now : Moment) : User :=
  { u with name := m.username, team := team, active := m.active, updatedAt := now }

/-- A pull request with another status; merging sets the time of the merge. -/
def PullRequest.withStatus (p : PullRequest) (status : Status) (now : Moment) : PullRequest :=
  { p with status, mergedAt := if status = .merged then some now else p.mergedAt }

/-- The five tables. -/
structure Store where
  teams : List Team := []
  users : List User := []
  pulls : List PullRequest := []
  assignments : List Assignment := []
  history : List Handover := []
  deriving DecidableEq, Repr, Inhabited

namespace Store

/-! ## Look-ups -/

/-- The team of a name. -/
def team? (s : Store) (name : String) : Option Team := s.teams.find? (·.name = name)

/-- The user of an id. -/
def user? (s : Store) (id : String) : Option User := s.users.find? (·.id = id)

/-- The pull request of an id. -/
def pull? (s : Store) (id : String) : Option PullRequest := s.pulls.find? (·.id = id)

/-! ## Teams and users -/

/-- A new team, unless the name is taken. -/
def addTeam (s : Store) (name : String) (now : Moment) : Except Failure Store :=
  match s.team? name with
  | some _ => .error (.store (.duplicateKey "teams.name"))
  | none => .ok { s with teams := s.teams ++ [⟨name, now, now⟩] }

/-- A member entry: a known user moves to the team and takes its name and flag
    from the entry, an unknown one is added. -/
def putMember (s : Store) (team : String) (m : Member) (now : Moment) : Store :=
  match s.user? m.userId with
  | some _ =>
    { s with users := s.users.map fun u => if u.id = m.userId then u.submitted team m now else u }
  | none => { s with users := s.users ++ [⟨m.userId, m.username, team, m.active, now, now⟩] }

/-- The active flag of a user.  A row that holds the flag already is not
    written. -/
def setActive (s : Store) (id : String) (active : Bool) (now : Moment) : Store :=
  { s with users := s.users.map fun u =>
      if u.id = id ∧ u.active ≠ active then { u with active, updatedAt := now } else u }

/-- Every active member of the team switched off. -/
def switchOff (s : Store) (team : String) (now : Moment) : Store :=
  { s with users := s.users.map fun u =>
      if u.team = team ∧ u.active then { u with active := false, updatedAt := now } else u }

/-! ## Pull requests -/

/-- A new open pull request, unless the id is taken. -/
def addPull (s : Store) (id title author : String) (now : Moment) :
    Except Failure (PullRequest × Store) :=
  match s.pull? id with
  | some _ => .error (.store (.duplicateKey "pull_requests.id"))
  | none =>
    let pull : PullRequest := ⟨id, title, author, .opened, now, none⟩
    .ok (pull, { s with pulls := s.pulls ++ [pull] })

/-- The status of a pull request. -/
def setStatus (s : Store) (id : String) (status : Status) (now : Moment) : Store :=
  { s with pulls := s.pulls.map fun p => if p.id = id then p.withStatus status now else p }

/-! ## Reviewers -/

/-- One more reviewer of a pull request, unless it is one already. -/
def assign (s : Store) (pull reviewer : String) (now : Moment) : Except Failure Store :=
  if s.assignments.any (fun a => a.pull = pull ∧ a.reviewer = reviewer) then
    .error (.store (.duplicateKey "pr_reviewers.pr_id, pr_reviewers.reviewer_id"))
  else .ok { s with assignments := s.assignments ++ [⟨pull, reviewer, now⟩] }

/-- The number of rows that name the reviewer of the pull request. -/
def assignmentCount (s : Store) (pull reviewer : String) : Nat :=
  s.assignments.countP fun a => a.pull = pull ∧ a.reviewer = reviewer

/-- One reviewer less. -/
def unassign (s : Store) (pull reviewer : String) : Store :=
  { s with assignments := s.assignments.filter fun a => ¬ (a.pull = pull ∧ a.reviewer = reviewer) }

/-- One more entry of the history. -/
def record (s : Store) (pull leaving : String) (joining : Option String) (now : Moment) : Store :=
  { s with history := s.history ++ [⟨pull, leaving, joining, now⟩] }

end Store

end ReviewRota
