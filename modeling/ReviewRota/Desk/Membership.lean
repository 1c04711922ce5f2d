/-
  ReviewRota — teams and their members.

  A team is created once, with its first members.  A member entry that names a
  known user moves that user to the new team and takes name and flag from the
  entry; reviews that the user holds stay where they are.

  * `createTeam`, `showTeam`: a team with all its members, by id;
  * `setUserActive` changes the flag of one user and nothing else;
  * `reviewsOf` lists the pull requests that a user reviews.
-/
import ReviewRota.Operation
import ReviewRota.View

namespace ReviewRota.Desk

open Op

/-- A new team, unless one of that name is there. -/
def foundTeam (name : String) : Op Unit := unlessTaken .teamExists (pure ()) (addTeam name)

/-- A team with its first members. -/
def createTeam (name : String) (members : List Member) : Op TeamView := do
  let rows ← unitOfWork do
    foundTeam name
    members.forM (putMember name)
    listMembers name
  report (.teamCreated name rows.length)
  return ⟨name, rows.map User.member⟩

/-- A team with its members. -/
def showTeam (name : String) : Op TeamView := unitOfWork do
  match ← findTeam name with
  | none => refuse .teamUnknown
  | some team => return ⟨team.name, (← listMembers team.name).map User.member⟩

/-- The flag of a user. -/
def setUserActive (id : String) (active : Bool) : Op UserView := do
  let view ← unitOfWork do
    match ← findUser id with
    | none => refuse .userUnknown
    | some user =>
      let now := (← read).now
      modify fun s => { s with store := s.store.setActive id active now }
      return ⟨user.id, user.name, user.team, active⟩
  report (.userActiveUpdated id active)
  return view

/-- The pull requests that a user reviews, newest first; none for an unknown
    user. -/
def reviewsOf (id : String) : Op (List PullBrief) := unitOfWork do
  return (← listReviews id none).map PullRequest.brief

end ReviewRota.Desk
