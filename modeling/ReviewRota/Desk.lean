/-
  ReviewRota — the desk.

  The desk answers requests about teams, reviewers and pull requests.  It takes
  them as they come: that the texts of a request are given is the care of the
  service in front of it.

  * `Desk.perform` is the answer to a request whose texts are texts;
  * `Desk.performAny` is the answer to any request; if its texts are texts it is
    `Desk.perform`;
  * `Desk.moveAny` asks for the status of a pull request that may not be named.
-/
import ReviewRota.Desk.Deactivation
import ReviewRota.Desk.Incomplete
import ReviewRota.Desk.Merge
import ReviewRota.Desk.Review

namespace ReviewRota.Desk

open Op

/-- The answer of the desk. -/
def perform : Request String → Op Answer
  | .createTeam team members => .team <$> createTeam team members
  | .showTeam team => .team <$> showTeam team
  | .setUserActive user active => .user <$> setUserActive user active
  | .reviewsOf user => .reviews <$> reviewsOf user
  | .openPull pull title author => .pull <$> openPull pull title author
  | .replaceReviewer pull leaving => do
    let (view, joining) ← replaceReviewer pull leaving
    return .replaced view joining
  | .merge pull => .pull <$> merge pull
  | .deactivateTeam team => .deactivation <$> deactivateTeam team
  | .overview => .overview <$> overview
  | .summary filter => .summary <$> summary filter
  | .reviewerReport user limit => .reviewer <$> reviewerReport user limit
  | .pullReport pull => .report <$> pullReport pull

/-- The answer of the desk to a request whose texts may be missing. -/
def performAny (r : Request Argument) : Op Answer :=
  match r.complete? with
  | some r => perform r
  | none => performIncomplete r

/-- A pull request, which may not be named, moved to a status. -/
def moveAny (pull : Argument) (target : Status) : Op PullView :=
  match pull with
  | .text id => moveTo id target
  | a => unitOfWork do
    consult .findPull a
    throw .rowMissing

end ReviewRota.Desk
