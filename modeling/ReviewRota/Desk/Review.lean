/-
  ReviewRota — assigning reviewers.

  A new pull request gets reviewers from the author's team; one of them may be
  replaced by somebody of that reviewer's own team.

  * `openPull` picks, among the active teammates of the author, as many
    reviewers as the settings say; a small team yields fewer;
  * `replaceReviewer` picks among the active teammates of the leaving reviewer,
    without the author and without anyone who reviews the pull request already.
-/
import ReviewRota.Operation
import ReviewRota.View

namespace ReviewRota.Desk

open Op

/-- A new pull request with its reviewers, in the order of the picks. -/
def openPull (id title author : String) : Op PullView := do
  let (pool, view) ← unitOfWork do
    match ← findUser author with
    | none => refuse .userUnknown
    | some user =>
      if !user.active then throw (.refused .authorInactive)
      let pull ← unlessTaken .pullExists (report (.pullDuplicate id)) (addPull id title author)
      let pool ← listCandidates { within := user.team, exclude := [author] }
      let reviewers ← drawing (.sample pool (← read).settings.maxReviewers)
      reviewers.forM (assign id)
      return (pool, pull.view reviewers)
  report (.pullCreated id author view.reviewers pool.length)
  return view

/-- The pull request after one reviewer was replaced, and the replacement. -/
def replaceReviewer (id leaving : String) : Op (PullView × String) := do
  let (view, joining) ← unitOfWork do
    match ← findPull id with
    | none => refuse .pullUnknown
    | some pull =>
      if pull.status ≠ .opened then refuse .pullMerged
      let reviewers ← listReviewers id
      if leaving ∉ reviewers then
        report (.notAssigned id leaving)
        refuse .notAssigned
      match ← findUser leaving with
      | none => refuse .userUnknown
      | some user =>
        let pool ← listCandidates { within := user.team, exclude := pull.author :: reviewers }
        match ← drawing (.choice pool) with
        | none => refuse .noCandidate
        | some joining =>
          let _ ← unassign id leaving
          assign id joining
          recordHandover id leaving joining
          return (pull.view (reviewers.filter (· ≠ leaving) ++ [joining]), joining)
  report (.reviewerReassigned id leaving joining)
  return (view, joining)

end ReviewRota.Desk
