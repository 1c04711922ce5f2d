/-
  ReviewRota — direct access to the store.

  One call to the store by itself, outside the desk.  Nothing that the desk
  checks is checked here: rows may name rows that do not exist.

  * `Access` is such a call, with teams given by name, and `Access.perform` makes
    it as a unit of work of its own;
  * a team that is not stored stands for no team: it restricts no candidates and
    has no members, and no user can be put into it;
  * an argument that is missing finds nothing, and no row is stored without it.
-/
import ReviewRota.Operation

namespace ReviewRota

/-- A call to the store. -/
inductive Access where
  | findTeam (team : Argument)
  | addTeam (team : Argument)
  | putMember (team : Option String) (user name : Argument) (active : Option Bool)
  | listMembers (team : Option String)
  | switchOff (team : Option String)
  | findUser (user : Argument)
  | listReviews (user : Argument) (limit : Option Int)
  | listCandidates (within outside : Option String) (exclude : List Argument)
  | addPull (pull title author : Argument)
  | findPull (pull : Argument)
  | lockReviewed (users : List Argument)
  | listReviewers (pull : Argument)
  | assign (pull reviewer : Argument)
  | unassign (pull reviewer : Argument)
  | recordHandover (pull leaving joining : Argument)
  | listHandovers (pull : Argument)
  | countByReviewer (window : Window) (limit : Option Int)
  | countByPull
  | countByStatus (window : Window)
  | countByTeam (window : Window)
  | countStatusesOf (user : Argument)
  deriving DecidableEq, Repr

/-- What a call yields. -/
inductive Access.Result where
  | nothing
  | done
  | row (id : Option String)
  | rows (ids : List String)
  | number (n : Nat)
  | counts (counts : List (String × Nat))
  | statusCounts (counts : List (Status × Nat))
  | handovers (events : List Handover)
  deriving DecidableEq, Repr

namespace Access

open Op

/-- The team of that name, if it is stored. -/
def stored (team : Option String) : Op (Option String) := do
  let store := (← get).store
  return team.bind fun name => (store.team? name).map Team.name

/-- What a call finds for an argument, or what it yields where nothing is
    found. -/
def found (call : StoreCall) (a : Argument) (fallback : Result) (work : String → Op Result) :
    Op Result :=
  match a with
  | .text s => work s
  | a => do
    consult call a
    return fallback

/-- What a call finds for arguments of which it needs all. -/
def foundBy (call : StoreCall) (arguments : List Argument) (fallback : Result)
    (work : List String → Op Result) : Op Result :=
  match arguments.mapM Argument.text? with
  | some texts => work texts
  | none => do
    reach call
    match arguments.findSome? Argument.obstacle? with
    | some f => throw f
    | none => return fallback

/-- The user put into a team. -/
def putUser (team : Option String) (user name : Argument) (active : Option Bool) : Op Result := do
  match ← stored team, user, name, active with
  | some team, .text id, .text username, some active =>
    Op.putMember team ⟨id, username, active⟩
    return .row id
  | _, user, name, _ => notStored .putMember "users" [user, name]

/-- What the call does. -/
def call : Access → Op Result
  | findTeam team => found .findTeam team .nothing fun team => do
    return if (← Op.findTeam team).isSome then .done else .nothing
  | addTeam (.text team) => do Op.addTeam team; return .done
  | addTeam team => notStored .addTeam "teams" [team]
  | putMember team user name active => putUser team user name active
  | listMembers team => do
    match ← stored team with
    | some team => return .rows ((← Op.listMembers team).map User.id)
    | none => do reach .listMembers; return .rows []
  | switchOff team => do
    match ← stored team with
    | some team => return .rows (← Op.switchOff team)
    | none => do reach .switchOff; return .rows []
  | findUser user => found .findUser user (.row none) fun user => do
    return .row ((← Op.findUser user).map User.id)
  | listReviews user limit => found .listReviews user (.rows []) fun user => do
    return .rows ((← Op.listReviews user limit).map PullRequest.id)
  | listCandidates within outside exclude =>
    foundBy .listCandidates exclude (.rows []) fun exclude => do
      return .rows (← Op.listCandidates ⟨← stored within, ← stored outside, exclude⟩)
  | addPull (.text pull) (.text title) (.text author) => do
    return .row (← Op.addPull pull title author).id
  | addPull pull title author => notStored .addPull "pull_requests" [pull, title, author]
  | findPull pull => found .findPull pull (.row none) fun pull => do
    return .row ((← Op.findPull pull).map PullRequest.id)
  | lockReviewed users =>
    foundBy .lockReviewed (users.filter (· ≠ .missing)) (.rows []) fun users => do
      return .rows ((← Op.lockReviewed users).map PullRequest.id)
  | listReviewers pull => found .listReviewers pull (.rows []) fun pull => do
    return .rows (← Op.listReviewers pull)
  | assign (.text pull) (.text reviewer) => do Op.assign pull reviewer; return .nothing
  | assign pull reviewer => notStored .assign "pr_reviewers" [pull, reviewer]
  | unassign (.text pull) (.text reviewer) => do return .number (← Op.unassign pull reviewer)
  | unassign pull reviewer => foundBy .unassign [pull, reviewer] (.number 0) fun _ => return .number 0
  | recordHandover (.text pull) (.text leaving) joining =>
    match joining with
    | .broken ps => do reach .recordHandover; throw (.ofBroken ps)
    | joining => do Op.recordHandover pull leaving joining.text?; return .done
  | recordHandover pull leaving joining =>
    notStored .recordHandover "pr_reassignment_history" [pull, leaving, joining]
  | listHandovers pull => found .listHandovers pull (.handovers []) fun pull => do
    return .handovers (← Op.listHandovers pull)
  | countByReviewer window limit => do return .counts (← Op.countByReviewer window limit)
  | countByPull => do return .counts (← Op.countByPull)
  | countByStatus window => do
    return .counts ((← Op.countByStatus window).map fun c => (c.1.name, c.2))
  | countByTeam window => do return .counts (← Op.countByTeam window)
  | countStatusesOf user => found .countStatusesOf user (.statusCounts []) fun user => do
    return .statusCounts (← Op.countStatusesOf user)

/-- The call as a unit of work of its own. -/
def perform (a : Access) : Op Result := unitOfWork (call a)

end Access

end ReviewRota
