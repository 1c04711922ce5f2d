/-
  ReviewRota — lists read from the store.

  Every list has a fixed order: ids and names ascend, by code points; the pull
  requests of a reviewer and the history of a pull request begin with the
  newest, and what is equally new begins with the greatest id, or with the entry
  added last.

  * `members`, `activeMembers` of a team, `candidates` for a review;
  * `reviewers` of a pull request, `reviewedBy` a user, `openReviewedBy` some
    users;
  * `handovers` of a pull request;
  * `Pool` says which users a candidate pool is taken from.
-/
import ReviewRota.Sorting
import ReviewRota.Store

namespace ReviewRota

/-- The texts in ascending order. -/
def ascending (ss : List String) : List String := sortBy (fun a b => decide (a ≤ b)) ss

/-- The rows in ascending order of their keys. -/
def ascendingBy (key : α → String) (rows : List α) : List α :=
  sortBy (fun a b => decide (key a ≤ key b)) rows

theorem ascending_perm (ss : List String) : (ascending ss).Perm ss := sortBy_perm ..

theorem ascendingBy_perm (key : α → String) (rows : List α) :
    (ascendingBy key rows).Perm rows := sortBy_perm ..

@[simp] theorem mem_ascending {s : String} {ss : List String} : s ∈ ascending ss ↔ s ∈ ss :=
  (ascending_perm ss).mem_iff

@[simp] theorem mem_ascendingBy {key : α → String} {r : α} {rows : List α} :
    r ∈ ascendingBy key rows ↔ r ∈ rows := (ascendingBy_perm key rows).mem_iff

/-- The users that a candidate pool is taken from. -/
structure Pool where
  within : Option String := none
  outside : Option String := none
  exclude : List String := []
  deriving DecidableEq, Repr

/-- The user belongs to the pool: active, in the one team, not in the other, and
    not excluded. -/
def Pool.admits (p : Pool) (u : User) : Bool :=
  u.active && (match p.within with | some t => u.team == t | none => true) &&
    (match p.outside with | some t => u.team != t | none => true) && !p.exclude.contains u.id

namespace Store

/-! ## Users -/

/-- The members of a team by id. -/
def members (s : Store) (team : String) : List User :=
  ascendingBy User.id (s.users.filter (·.team = team))

/-- The ids of the active members of a team. -/
def activeMembers (s : Store) (team : String) : List String :=
  ascending ((s.users.filter fun u => u.team = team ∧ u.active).map User.id)

/-- The ids of the users of a pool. -/
def candidates (s : Store) (p : Pool) : List String :=
  ascending ((s.users.filter p.admits).map User.id)

/-! ## Reviews -/

/-- The reviewers of a pull request. -/
def reviewers (s : Store) (pull : String) : List String :=
  ascending ((s.assignments.filter (·.pull = pull)).map Assignment.reviewer)

/-- The first pull request is listed before the second: it is newer, or equally
    new with a greater id. -/
def newerFirst (p q : PullRequest) : Bool :=
  decide (q.createdAt < p.createdAt) || (p.createdAt = q.createdAt && decide (q.id ≤ p.id))

/-- The pull requests that a user reviews, newest first. -/
def reviewedBy (s : Store) (user : String) : List PullRequest :=
  sortBy newerFirst (s.assignments.filterMap fun a =>
    if a.reviewer = user then s.pull? a.pull else none)

/-- The open pull requests that one of the users reviews, by id. -/
def openReviewedBy (s : Store) (users : List String) : List PullRequest :=
  ascendingBy PullRequest.id (s.pulls.filter fun p => p.status = .opened ∧
    s.assignments.any fun a => a.pull = p.id ∧ a.reviewer ∈ users)

/-- The history of a pull request, newest first. -/
def handovers (s : Store) (pull : String) : List Handover :=
  sortBy (fun a b => decide (b.changedAt ≤ a.changedAt)) (s.history.filter (·.pull = pull)).reverse

end Store

end ReviewRota
