/-
  ReviewRota — operations.

  An operation works on a scene: the store, the generator of picks, the calls
  made to the store and the log.  It does so under fixed conditions: the time,
  the settings of the desk, what is bound to the log, and perhaps a fault, which
  makes one call to the store fail or hang.

  * `StoreCall` names the calls that an operation makes, and `Fault` one that
    goes wrong, by its name and its number among the calls of that name;
  * `Op` is an operation: it ends in a value or a failure and always leaves a
    scene behind;
  * `unitOfWork` makes an operation all or nothing: whatever fails inside it,
    the store is the one from before; draws, calls and log stay;
  * `unlessTaken` tells a caller that the key of a new row is taken;
  * the operations named after store calls (`findUser`, `assign`, …) make the
    call and then read or write the store.
-/
import ReviewRota.Argument
import ReviewRota.Draw
import ReviewRota.Log.Line
import ReviewRota.Settings
import ReviewRota.Store.Tally

namespace ReviewRota

/-! ## Calls and faults -/

/-- A call to the store. -/
inductive StoreCall where
  | openSession
  | findTeam
  | addTeam
  | putMember
  | listMembers
  | switchOff
  | findUser
  | listReviews
  | listCandidates
  | addPull
  | findPull
  | lockReviewed
  | listReviewers
  | assign
  | unassign
  | recordHandover
  | listHandovers
  | countByReviewer
  | countByPull
  | countByStatus
  | countByTeam
  | countStatusesOf
  deriving DecidableEq, Repr

/-- How a call goes wrong: it fails, or it hangs until the time is up. -/
inductive Fault.Effect where
  | fail (failure : Failure)
  | stall
  deriving DecidableEq, Repr

/-- The call that goes wrong: the `nth` one of its name, counted from 1. -/
structure Fault where
  call : StoreCall
  nth : Int := 1
  effect : Fault.Effect
  deriving DecidableEq, Repr

/-- The failure that the caller sees: a call that hangs ends with the time of
    the operation. -/
def Fault.failure (f : Fault) : Failure :=
  match f.effect with
  | .fail failure => failure
  | .stall => .timeout

/-! ## Operations -/

/-- What an operation is given. -/
structure Conditions where
  now : Moment
  settings : Settings.Engine := {}
  context : Log.Context := {}
  fault : Option Fault := none
  deriving Repr

/-- What an operation works on. -/
structure Scene where
  store : Store := {}
  generator : Generator := {}
  calls : List StoreCall := []
  log : List Log.Entry := []
  deriving Repr, Inhabited

/-- An operation. -/
abbrev Op := ReaderT Conditions (ExceptT Failure (StateM Scene))

/-- The outcome of an operation, and the scene it leaves. -/
def Op.outcome (op : Op α) (c : Conditions) (s : Scene) : Except Failure α × Scene :=
  ((op.run c).run).run s

namespace Op

/-- The operation is refused. -/
def refuse (cause : Cause) : Op α := throw (.refused ⟨cause, ""⟩)

/-- An event written to the log. -/
def report (e : Log.Event) : Op Unit := do
  let context := (← read).context
  modify fun s => { s with log := s.log ++ [⟨context, e⟩] }

/-- A call to the store is reached: it is noted, and fails if it is the one that
    goes wrong. -/
def reach (call : StoreCall) : Op Unit := do
  modify fun s => { s with calls := s.calls ++ [call] }
  match (← read).fault with
  | none => pure ()
  | some f =>
    if f.call = call ∧ f.nth = (← get).calls.count call then throw f.failure else pure ()

/-- Everything inside happens, or, if it fails, nothing of it is stored. -/
def unitOfWork (work : Op α) : Op α := do
  reach .openSession
  let before := (← get).store
  tryCatch work fun f => do
    modify fun s => { s with store := before }
    throw f

/-- Picks from a pool. -/
def drawing (work : Drawing α) : Op α := do
  let s ← get
  let (result, generator) := work.run.run s.generator
  set { s with generator }
  MonadExcept.ofExcept result

/-- A value read from the store by a call. -/
def query (call : StoreCall) (f : Store → α) : Op α := do
  reach call
  return f (← get).store

/-- A change of the store by a call. -/
def write (call : StoreCall) (f : Store → Moment → Store) : Op Unit := do
  reach call
  let now := (← read).now
  modify fun s => { s with store := f s.store now }

/-- A call to the store with an argument that is no text: it finds nothing, or
    fails. -/
def consult (call : StoreCall) (a : Argument) : Op Unit := do
  reach call
  match a.obstacle? with
  | some f => throw f
  | none => pure ()

/-- A call to the store for a row with arguments of which one is no text. -/
def notStored (call : StoreCall) (table : String) (arguments : List Argument) : Op α := do
  reach call
  throw (Argument.obstacle table arguments)

/-- Work that stores a row of a new key.  That the key is taken is a refusal, which is
    noted; every other failure stays as it is. -/
def unlessTaken (cause : Cause) (note : Op Unit) (work : Op α) : Op α :=
  tryCatch work fun f => do
    if !f.isDuplicate then throw f
    note
    refuse cause

/-- A change of the store by a call that may fail. -/
def attempt (call : StoreCall) (f : Store → Moment → Except Failure Store) : Op Unit := do
  reach call
  let now := (← read).now
  let store ← MonadExcept.ofExcept (f (← get).store now)
  modify fun s => { s with store }

/-! ## Teams and users -/

/-- The team of a name. -/
def findTeam (name : String) : Op (Option Team) := query .findTeam (·.team? name)

/-- A new team. -/
def addTeam (name : String) : Op Unit := attempt .addTeam (·.addTeam name)

/-- A member entry. -/
def putMember (team : String) (m : Member) : Op Unit := write .putMember (·.putMember team m)

/-- The members of a team by id. -/
def listMembers (team : String) : Op (List User) := query .listMembers (·.members team)

/-- The active members of a team, who are switched off. -/
def switchOff (team : String) : Op (List String) := do
  let ids ← query .switchOff (·.activeMembers team)
  let now := (← read).now
  modify fun s => { s with store := s.store.switchOff team now }
  return ids

/-- The user of an id. -/
def findUser (id : String) : Op (Option User) := query .findUser (·.user? id)

/-- The users of a pool by id. -/
def listCandidates (p : Pool) : Op (List String) := query .listCandidates (·.candidates p)

/-! ## Limits -/

/-- The first rows of a list: all of them without a limit or with a negative
    one.  A limit that does not fit 64 bits fails. -/
def limited (limit : Option Int) (rows : List α) : Op (List α) :=
  match limit with
  | none => pure rows
  | some n =>
    if n < -9223372036854775808 ∨ 9223372036854775807 < n then throw .overflow
    else pure (if n < 0 then rows else rows.take n.toNat)

/-! ## Pull requests -/

/-- The pull requests that a user reviews, newest first. -/
def listReviews (user : String) (limit : Option Int) : Op (List PullRequest) := do
  limited limit (← query .listReviews (·.reviewedBy user))

/-- A new open pull request. -/
def addPull (id title author : String) : Op PullRequest := do
  reach .addPull
  let now := (← read).now
  let (pull, store) ← MonadExcept.ofExcept ((← get).store.addPull id title author now)
  modify fun s => { s with store }
  return pull

/-- The pull request of an id. -/
def findPull (id : String) : Op (Option PullRequest) := query .findPull (·.pull? id)

/-- The open pull requests that one of the users reviews, by id. -/
def lockReviewed (users : List String) : Op (List PullRequest) :=
  query .lockReviewed (·.openReviewedBy users)

/-- The reviewers of a pull request by id. -/
def listReviewers (pull : String) : Op (List String) := query .listReviewers (·.reviewers pull)

/-- One more reviewer. -/
def assign (pull reviewer : String) : Op Unit := attempt .assign (·.assign pull reviewer)

/-- One reviewer less; the answer is the number of rows that are gone. -/
def unassign (pull reviewer : String) : Op Nat := do
  let count ← query .unassign (·.assignmentCount pull reviewer)
  modify fun s => { s with store := s.store.unassign pull reviewer }
  return count

/-- One more entry of the history. -/
def recordHandover (pull leaving : String) (joining : Option String) : Op Unit :=
  write .recordHandover (·.record pull leaving joining)

/-- The history of a pull request, newest first. -/
def listHandovers (pull : String) : Op (List Handover) := query .listHandovers (·.handovers pull)

/-! ## Counts -/

/-- Assignments by reviewer, the greatest count first. -/
def countByReviewer (w : Window) (limit : Option Int) : Op (List (String × Nat)) := do
  limited limit (← query .countByReviewer (·.countsByReviewer w))

/-- Assignments by pull request. -/
def countByPull : Op (List (String × Nat)) := query .countByPull (·.countsByPull)

/-- Pull requests by status. -/
def countByStatus (w : Window) : Op (List (Status × Nat)) :=
  query .countByStatus (·.countsByStatus w)

/-- Assignments by team, the greatest count first. -/
def countByTeam (w : Window) : Op (List (String × Nat)) := query .countByTeam (·.countsByTeam w)

/-- The assignments of a reviewer by status. -/
def countStatusesOf (user : String) : Op (List (Status × Nat)) :=
  query .countStatusesOf (·.statusCountsOf user)

end Op

end ReviewRota
