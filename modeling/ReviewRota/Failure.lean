/-
  ReviewRota — failures.

  An operation fails in one of three ways.  The desk *refuses* a request that
  breaks one of its rules; such a refusal is final, the same request fails again.
  The *store* fails, with the report of its driver.  Or something else around
  the operation gives way: its time runs out, the generator of picks fails, a
  number does not fit the store.

  * `Cause` is the rule behind a refusal, with its kind, code and usual wording;
    `Refusal.message` is the wording of a refusal, its own or the usual one;
  * `StoreFailure` is a driver's report; `isUniqueViolation` tells a duplicate
    key and `isTransient` a failure after which the same call may succeed;
  * `Failure` is any of the three, and `Failure.text` its text.
-/
import ReviewRota.Store.Address
import ReviewRota.Text.Encoding

namespace ReviewRota

/-! ## Refusals -/

/-- The rule that a refused request breaks. -/
inductive Cause where
  | unspecified
  | invalidArgument
  | userUnknown
  | teamUnknown
  | teamExists
  | pullUnknown
  | pullExists
  | pullMerged
  | notAssigned
  | noCandidate
  | internal
  | entropyUnavailable
  | invalidTransition
  deriving DecidableEq, Repr

namespace Cause

/-- The category of the failure. -/
def kind : Cause → String
  | unspecified | internal | entropyUnavailable | invalidTransition => "InternalError"
  | invalidArgument => "InvalidArgument"
  | userUnknown => "UserNotFound"
  | teamUnknown => "TeamNotFound"
  | teamExists => "TeamExists"
  | pullUnknown => "PRNotFound"
  | pullExists => "PRExists"
  | pullMerged => "PRMerged"
  | notAssigned => "NotAssigned"
  | noCandidate => "NoCandidate"

/-- The code that clients see. -/
def code : Cause → String
  | unspecified | internal | entropyUnavailable | invalidTransition => "INTERNAL"
  | invalidArgument => "INVALID_ARGUMENT"
  | userUnknown | teamUnknown | pullUnknown => "NOT_FOUND"
  | teamExists => "TEAM_EXISTS"
  | pullExists => "PR_EXISTS"
  | pullMerged => "PR_MERGED"
  | notAssigned => "NOT_ASSIGNED"
  | noCandidate => "NO_CANDIDATE"

/-- The usual wording. -/
def wording : Cause → String
  | unspecified | internal | invalidTransition => "internal error"
  | invalidArgument => "invalid argument"
  | userUnknown => "user not found"
  | teamUnknown => "team not found"
  | teamExists => "team_name already exists"
  | pullUnknown => "pull request not found"
  | pullExists => "PR id already exists"
  | pullMerged => "cannot reassign on merged PR"
  | notAssigned => "reviewer is not assigned to this PR"
  | noCandidate => "no active replacement candidate in team"
  | entropyUnavailable => "random source unavailable"

/-- The more general causes of which this one is a case, nearest first. -/
def general : Cause → List Cause
  | unspecified => []
  | entropyUnavailable | invalidTransition => [internal, unspecified]
  | _ => [unspecified]

end Cause

/-- A refused request: the rule that it breaks, and a wording of its own unless
    that is empty. -/
structure Refusal where
  cause : Cause
  note : String := ""
  deriving DecidableEq, Repr

namespace Refusal

/-- The wording of a refusal. -/
def message (r : Refusal) : String := if r.note = "" then r.cause.wording else r.note

/-- A required argument is missing or blank. -/
def required (argument : String) : Refusal :=
  ⟨.invalidArgument, "invalid argument: " ++ argument ++ " is required"⟩

/-- The author of a new pull request is switched off. -/
def authorInactive : Refusal := ⟨.invalidArgument, "invalid argument: author inactive"⟩

/-- The generator gave no randomness. -/
def noEntropy (reason : String) : Refusal :=
  ⟨.entropyUnavailable, "random source unavailable: " ++ reason⟩

end Refusal

/-! ## Failures of the store -/

/-- The family of a driver's report. -/
inductive StoreFamily where
  | integrity
  | operational
  | connection
  | driver
  deriving DecidableEq, Repr

namespace StoreFamily

/-- The name that the log gives the family. -/
def name : StoreFamily → String
  | integrity => "IntegrityError"
  | operational => "OperationalError"
  | connection => "InterfaceError"
  | driver => "DBAPIError"

end StoreFamily

/-- A code of a driver's report: a text, or a number that drivers with codes of
    their own report. -/
inductive ErrorCode where
  | text (s : String)
  | number (n : Int)
  deriving DecidableEq, Repr

namespace ErrorCode

/-- The code as a text. -/
def written : ErrorCode → String
  | text s => s
  | number n => toString n

/-- The code says nothing: an empty text, or zero. -/
def isEmpty : ErrorCode → Bool
  | text s => s = ""
  | number n => n = 0

end ErrorCode

/-- A driver's report: its text, the codes it carries, and whether the connection
    is lost. -/
structure StoreFailure where
  family : StoreFamily
  text : String := "driver failure"
  sqlstate : Option ErrorCode := none
  pgcode : Option ErrorCode := none
  invalidated : Bool := false
  deriving DecidableEq, Repr

/-- The piece stands somewhere in the list. -/
def occursIn (piece : List Char) : List Char → Bool
  | [] => piece.isEmpty
  | c :: cs => piece.isPrefixOf (c :: cs) || occursIn piece cs

/-- The text holds the given piece. -/
def holdsText (piece : String) (s : String) : Bool := occursIn piece.toList s.toList

namespace StoreFailure

/-- The code of a violated unique key. -/
def uniqueViolation : ErrorCode := .text "23505"

/-- The codes of failures that pass: serialization, deadlock, lock not
    available, statement cancelled, shutdown. -/
def passingCodes : List String := ["40001", "40P01", "55P03", "57014", "57P01"]

/-- The report speaks of a duplicate key: by either code or by its text. -/
def isUniqueViolation (f : StoreFailure) : Bool :=
  f.sqlstate == some uniqueViolation || f.pgcode == some uniqueViolation ||
    holdsText "UNIQUE constraint failed" f.text || holdsText "duplicate key value" f.text

/-- The code that counts: the first of the two that is not empty. -/
def code (f : StoreFailure) : Option String :=
  ((f.sqlstate.filter (!·.isEmpty)).or (f.pgcode.filter (!·.isEmpty))).map ErrorCode.written

/-- The same call may succeed later.  A violated constraint never passes; a lost
    connection always does, and so do the codes of class `08` and those above. -/
def isTransient (f : StoreFailure) : Bool :=
  f.family != .integrity &&
    (f.family == .operational || f.family == .connection || f.invalidated ||
      match f.code with
      | some c => passingCodes.contains c || "08".toList.isPrefixOf c.toList
      | none => false)

/-- A row with the same key is stored already. -/
def duplicateKey (key : String) : StoreFailure :=
  { family := .integrity, text := "UNIQUE constraint failed: " ++ key }

/-- A value that every row needs is missing. -/
def missingValue (column : String) : StoreFailure :=
  { family := .integrity, text := "NOT NULL constraint failed: " ++ column }

example : (duplicateKey "teams.name").isUniqueViolation = true ∧
    (missingValue "users.team_id").isUniqueViolation = false := by decide +kernel

end StoreFailure

/-! ## All failures -/

/-- Why an operation fails.  A text with halves of surrogate pairs cannot be
    stored: `unencodable` tells where the first run of them begins, its first
    member and its length. -/
inductive Failure where
  | refused (refusal : Refusal)
  | store (report : StoreFailure)
  | overflow
  | timeout
  | system (text : String)
  | unsupported (text : String)
  | runtime (text : String)
  | value (text : String)
  | unencodable (start first length : Nat)
  | rowMissing
  | exhausted (text : String)
  | address (fault : Address.Fault)
  deriving DecidableEq, Repr

namespace Failure

/-- What is told of a text that cannot be stored. -/
def unencodableText (start first length : Nat) : String :=
  "'utf-8' codec can't encode " ++
    (if length = 1 then
      "character '" ++ String.ofList (Text.byCode first) ++ "' in position " ++ toString start
    else
      "characters in position " ++ toString start ++ "-" ++ toString (start + length - 1)) ++
    ": surrogates not allowed"

/-- A text with halves of surrogate pairs cannot be stored. -/
def ofBroken (ps : List Text.Point) : Failure :=
  match Text.unencodable ps with
  | some (start, first, length) => .unencodable start first length
  | none => .value ""

/-- The text of a failure. -/
def text : Failure → String
  | refused r => r.message
  | store f => f.text
  | overflow => "Python int too large to convert to SQLite INTEGER"
  | timeout => ""
  | system s | unsupported s | runtime s | value s | exhausted s => s
  | unencodable start first length => unencodableText start first length
  | rowMissing => "'NoneType' object has no attribute 'status'"
  | address fault => fault.text

/-- The store holds a row with the same key already. -/
def isDuplicate : Failure → Bool
  | store f => f.family = .integrity && f.isUniqueViolation
  | _ => false

end Failure

end ReviewRota
