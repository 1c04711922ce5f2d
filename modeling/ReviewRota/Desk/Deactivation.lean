/-
  ReviewRota — deactivating a team.

  All active members of a team are switched off, and every open pull request
  that one of them reviews is repaired: each such review goes to an active user
  of another team, or is dropped where nobody is left who could take it.  Merged
  pull requests stay as they are.

  * `repairSlot` repairs one review; its pool is read after the removal, so that
    earlier replacements are known to it;
  * `repairPull` repairs the reviews of one pull request by reviewer id, and
    `deactivateTeam` the pull requests by id.
-/
import ReviewRota.Operation
import ReviewRota.View

namespace ReviewRota.Desk

open Op

/-- One review taken from a reviewer who was switched off; the answer is who got
    it, if anybody. -/
def repairSlot (team : String) (pull : PullRequest) (leaving : String) : Op (Option String) := do
  let _ ← unassign pull.id leaving
  let current ← listReviewers pull.id
  let pool ← listCandidates { outside := team, exclude := pull.author :: current }
  let joining ← drawing (.choice pool)
  match joining with
  | some j => assign pull.id j
  | none => pure ()
  recordHandover pull.id leaving joining
  report (.slotRepaired pull.id leaving joining)
  return joining

/-- The reviews of one pull request that users who were switched off hold, in
    the order of the users' ids. -/
def repairPull (team : String) (gone : List String) (d : Deactivation) (pull : PullRequest) :
    Op Deactivation := do
  let reviewers ← listReviewers pull.id
  (reviewers.filter (· ∈ gone)).foldlM (fun d leaving => do
    return d.count (← repairSlot team pull leaving)) d

/-- A team switched off and its open reviews repaired. -/
def deactivateTeam (name : String) : Op Deactivation := do
  let (impacted, result) ← unitOfWork do
    match ← findTeam name with
    | none => refuse .teamUnknown
    | some team =>
      let gone ← switchOff team.name
      if gone.isEmpty then return (none, {})
      let pulls ← lockReviewed gone
      let result ← pulls.foldlM (repairPull team.name gone) { deactivated := gone.length }
      return (some pulls.length, result)
  report (.teamDeactivated name impacted result.deactivated result.reassigned result.removed)
  return result

end ReviewRota.Desk
