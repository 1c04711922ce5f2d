/-
  ReviewRota — merging.

  A pull request has one transition, from open to merged, and none after it.
  Merging a merged pull request changes nothing and keeps the time of the first
  merge.

  * `Status.named` reads a status, and `Status.allows` is the table of transitions;
  * `transition` applies one inside a unit of work;
  * `merge` merges a pull request, and `moveTo` asks for any status.
-/
import ReviewRota.Datum.Shown
import ReviewRota.Operation
import ReviewRota.View

namespace ReviewRota

/-- A pull request of the first status may move to the second. -/
def Status.allows : Status → Status → Bool
  | .opened, .merged => true
  | _, _ => false

/-- The status of a name; any other value is none. -/
def Status.named (d : Datum) : Except Failure Status :=
  match d with
  | .text s =>
    match Status.ofName? s with
    | some t => .ok t
    | none => .error (.value (d.shown ++ " is not a valid PRStatus"))
  | d => .error (.value (d.shown ++ " is not a valid PRStatus"))

/-- The transition that was asked for is none. -/
def Refusal.invalidTransition (source target : Status) (pull : String) : Refusal :=
  ⟨.invalidTransition, "Invalid transition from " ++ source.name ++ " to " ++ target.name ++
    (if pull = "" then "" else " for pull request " ++ pull)⟩

namespace Desk

open Op

/-- The pull request in its new status. -/
def transition (pull : PullRequest) (target : Status) : Op PullRequest := do
  if !pull.status.allows target then
    throw (.refused (.invalidTransition pull.status target pull.id))
  let now := (← read).now
  modify fun s => { s with store := s.store.setStatus pull.id target now }
  report (.pullTransition pull.id pull.status target)
  return pull.withStatus target now

/-- The pull request merged. -/
def merge (id : String) : Op PullView := do
  let (already, view) ← unitOfWork do
    match ← findPull id with
    | none => refuse .pullUnknown
    | some pull =>
      let already := pull.status = .merged
      let pull ← if already then pure pull else transition pull .merged
      return (decide already, pull.view (← listReviewers id))
  report (.pullMerged id already view.mergedAt)
  return view

/-- The pull request moved to a status, shown without its reviewers. -/
def moveTo (id : String) (target : Status) : Op PullView := unitOfWork do
  match ← findPull id with
  | none => throw .rowMissing
  | some pull => return (← transition pull target).view []

end Desk

end ReviewRota
