/-
  ReviewRota — requests with missing texts.

  Behind the service, nothing checks that the texts of a request are given.  A
  text that is missing matches no key, and a row that needs it is not stored.  A
  text with halves of surrogate pairs reaches no row at all: the first call to the
  store that is given it fails.

  * `absent` is the look-up of an argument that is no text;
  * `performIncomplete` is the answer of the desk to a request that lacks a text.
-/
import ReviewRota.Desk.Membership
import ReviewRota.Desk.Statistics
import ReviewRota.Request

namespace ReviewRota.Desk

open Op

/-- A look-up of an argument that is no text, by itself. -/
def absent (call : StoreCall) (cause : Cause) (a : Argument) : Op α := unitOfWork do
  consult call a
  refuse cause

/-- A member entry, which may be incomplete. -/
def putEntry (team : String) (m : MemberEntry Argument) : Op Unit :=
  match m.complete? with
  | some m => putMember team m
  | none => notStored .putMember "users" [m.userId, m.username]

/-- A team with members of which one is incomplete. -/
def createWith (name : String) (members : List (MemberEntry Argument)) : Op Answer := unitOfWork do
  foundTeam name
  members.forM (putEntry name)
  return .team ⟨name, (← listMembers name).map User.member⟩

/-- A new pull request without an id or a title. -/
def openUnnamed (pull title : Argument) (author : String) : Op Answer := unitOfWork do
  match ← findUser author with
  | none => refuse .userUnknown
  | some user =>
    if !user.active then throw (.refused .authorInactive)
    unlessTaken .pullExists (report (.pullDuplicate pull.shown))
      (notStored .addPull "pull_requests" [pull, title])

/-- A pull request without a name for the leaving reviewer. -/
def replaceUnnamed (id : String) (leaving : Argument) : Op Answer := unitOfWork do
  match ← findPull id with
  | none => refuse .pullUnknown
  | some pull =>
    if pull.status ≠ .opened then refuse .pullMerged
    let _ ← listReviewers id
    report (.notAssigned id leaving.shown)
    refuse .notAssigned

/-- The answer to a request that lacks a text. -/
def performIncomplete : Request Argument → Op Answer
  | .createTeam (.text team) members => createWith team members
  | .createTeam team _ => unitOfWork
    (unlessTaken .teamExists (pure ()) (notStored .addTeam "teams" [team]))
  | .reviewsOf user => unitOfWork do
    consult .listReviews user
    return .reviews []
  | .setUserActive user _ | .reviewerReport user _ => absent .findUser .userUnknown user
  | .openPull pull title (.text author) => openUnnamed pull title author
  | .openPull _ _ author => absent .findUser .userUnknown author
  | .replaceReviewer (.text pull) leaving => replaceUnnamed pull leaving
  | .replaceReviewer pull _ | .merge pull | .pullReport pull => absent .findPull .pullUnknown pull
  | .showTeam team | .deactivateTeam team => absent .findTeam .teamUnknown team
  | .overview => .overview <$> overview
  | .summary filter => .summary <$> summary filter

end ReviewRota.Desk
