/-
  ReviewRota — statistics.

  Counts over the present assignments, over all of them or over the pull
  requests of a window of time, a status, one user or one pull request.  Nothing
  is changed.

  * `overview` counts everything, each list by its key;
  * `summary` counts within a filter, the busiest reviewers first;
  * `reviewerReport` and `pullReport` are about one user and one pull request;
  * `limitOr` is the length of a list where a call asks for none.
-/
import ReviewRota.Operation
import ReviewRota.View

namespace ReviewRota

/-- The limit that counts: the one asked for, or the usual one instead of zero or
    less. -/
def limitOr (usual limit : Int) : Int := if 0 < limit then limit else usual

namespace Desk

open Op

/-- The counts in ascending order of their keys. -/
def byKey (counts : List (String × Nat)) : List (String × Nat) :=
  sortBy (fun a b => decide (a.1 < b.1) || (a.1 = b.1 && decide (a.2 ≤ b.2))) counts

/-- Counts over all assignments and pull requests. -/
def overview : Op Overview := do
  let (users, pulls, statuses, teams) ← unitOfWork do
    let users ← countByReviewer {} none
    let pulls ← countByPull
    let statuses ← countByStatus {}
    let teams ← countByTeam {}
    return (users, pulls, statuses, teams)
  return ⟨byKey users, byKey pulls, ascendingBy (·.1.name) statuses, byKey teams⟩

/-- Counts within a filter. -/
def summary (f : SummaryFilter) : Op Summary := unitOfWork do
  let limit := limitOr (← read).settings.defaultLimit f.limit
  let reviewers ← countByReviewer f.window (some limit)
  let statuses ← countByStatus f.window
  let teams ← countByTeam f.window
  return ⟨reviewers, statuses, teams⟩

/-- The count of a key, zero where it is missing. -/
def countOf (status : Status) (counts : List (Status × Nat)) : Nat :=
  (counts.lookup status).getD 0

/-- The sum of all counts. -/
def totalOf (counts : List (Status × Nat)) : Nat := counts.foldr (fun c n => c.2 + n) 0

/-- The reviews of a user, the newest ones listed. -/
def reviewerReport (id : String) (limit : Int) : Op ReviewerReport := unitOfWork do
  match ← findUser id with
  | none => refuse .userUnknown
  | some _ =>
    let counts ← countStatusesOf id
    let recent ← listReviews id (some (limitOr (← read).settings.defaultLimit limit))
    return ⟨id, totalOf counts, countOf .opened counts, countOf .merged counts,
      recent.map PullRequest.brief⟩

/-- A pull request with its reviewers and its history. -/
def pullReport (id : String) : Op PullReport := unitOfWork do
  match ← findPull id with
  | none => refuse .pullUnknown
  | some p =>
    let reviewers ← listReviewers id
    let handovers ← listHandovers id
    return ⟨p.id, p.title, p.author, p.status, reviewers, p.createdAt, p.mergedAt, handovers⟩

end Desk

end ReviewRota
