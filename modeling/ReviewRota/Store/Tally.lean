/-
  ReviewRota — counts over the store.

  Assignments are counted by reviewer, by pull request and by the present team of
  the reviewer, pull requests by status.  A count follows the rows that an
  assignment names: an assignment whose pull request, reviewer or team is not
  stored does not take part in a count that needs it.

  * `tally` counts each key of a list, and `distinct` lists its keys once;
  * `Window` restricts a count to pull requests created in a span of time, both
    ends included, and of one status;
  * `SummaryFilter` adds a limit to it;
  * `countsByReviewer`, `countsByPull`, `countsByTeam`, `countsByStatus` and
    `statusCountsOf` are the counts, each in its own order.
-/
import ReviewRota.Store.Listing

namespace ReviewRota

/-! ## Counting -/

/-- The entries of a list, each where it first stands. -/
def distinct [DecidableEq α] : List α → List α
  | [] => []
  | a :: l => a :: (distinct l).filter (· ≠ a)

@[simp] theorem mem_distinct [DecidableEq α] {a : α} {l : List α} : a ∈ distinct l ↔ a ∈ l := by
  induction l with
  | nil => simp [distinct]
  | cons b l ih => by_cases h : a = b <;> simp [distinct, ih, h]

theorem nodup_distinct [DecidableEq α] (l : List α) : (distinct l).Nodup := by
  induction l with
  | nil => simp [distinct]
  | cons a l ih => simpa [distinct] using ih.sublist List.filter_sublist

/-- Each key of a list with the number of times it stands there. -/
def tally [DecidableEq α] (keys : List α) : List (α × Nat) :=
  (distinct keys).map fun k => (k, keys.count k)

/-- The first count is listed before the second: it is greater, or equal with
    the lesser key. -/
def greaterFirst (a b : String × Nat) : Bool :=
  decide (b.2 < a.2) || (a.2 = b.2 && decide (a.1 ≤ b.1))

/-! ## Windows -/

/-- A restriction on pull requests: created no earlier, no later, of a status. -/
structure Window where
  since : Option Moment := none
  upTo : Option Moment := none
  status : Option Status := none
  deriving DecidableEq, Repr

/-- The pull request meets the restriction. -/
def Window.admits (w : Window) (p : PullRequest) : Bool :=
  (match w.since with | some t => decide (t ≤ p.createdAt) | none => true) &&
    (match w.upTo with | some t => decide (p.createdAt ≤ t) | none => true) &&
    (match w.status with | some t => decide (p.status = t) | none => true)

/-- What a summary is restricted to, and how many reviewers it lists. -/
structure SummaryFilter where
  window : Window := {}
  limit : Int := 0
  deriving DecidableEq, Repr

namespace Store

/-- The assignments whose pull request is stored and meets the restriction. -/
def assignmentsIn (s : Store) (w : Window) : List Assignment :=
  s.assignments.filter fun a => (s.pull? a.pull).any w.admits

/-- The present team of a user, if both are stored. -/
def teamOf? (s : Store) (user : String) : Option String :=
  (s.user? user).bind fun u => (s.team? u.team).map Team.name

/-! ## Counts -/

/-- Assignments by reviewer, the greatest count first. -/
def countsByReviewer (s : Store) (w : Window) : List (String × Nat) :=
  sortBy greaterFirst (tally ((s.assignmentsIn w).map Assignment.reviewer))

/-- Assignments by pull request, stored or not, by id. -/
def countsByPull (s : Store) : List (String × Nat) :=
  ascendingBy Prod.fst (tally (s.assignments.map Assignment.pull))

/-- Pull requests by status, by the name of the status. -/
def countsByStatus (s : Store) (w : Window) : List (Status × Nat) :=
  ascendingBy (·.1.name) (tally ((s.pulls.filter w.admits).map PullRequest.status))

/-- Assignments by the reviewer's team, the greatest count first. -/
def countsByTeam (s : Store) (w : Window) : List (String × Nat) :=
  sortBy greaterFirst (tally ((s.assignmentsIn w).filterMap fun a => s.teamOf? a.reviewer))

/-- The assignments of one reviewer by the status of the pull request. -/
def statusCountsOf (s : Store) (user : String) : List (Status × Nat) :=
  ascendingBy (·.1.name) (tally (s.assignments.filterMap fun a =>
    if a.reviewer = user then (s.pull? a.pull).map PullRequest.status else none))

end Store

end ReviewRota
