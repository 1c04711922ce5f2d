/-
  ReviewRota — forms.

  What clients fill in: a member of a team, and the filter of a summary.  Entries
  that a form does not know are left aside.

  * `Argument.read` reads a text as it is given;
  * `MemberEntry.read` reads a member; without a flag the member is active;
  * `SummaryFilter.read` reads a filter; what it leaves open is not restricted.
-/
import ReviewRota.Reading
import ReviewRota.Request

namespace ReviewRota

/-- A text, which may hold halves of surrogate pairs. -/
def Argument.read : Datum → Reading Argument
  | .text s => .value (.text s)
  | .broken ps => .value (.broken ps)
  | d => .flaw .notText d

/-- The member that a table describes. -/
def MemberEntry.readFields (fs : Fields) : Reading (MemberEntry Argument) :=
  MemberEntry.mk <$> fs.read "user_id" Argument.read <*> fs.read "username" Argument.read <*>
    fs.readOr "is_active" true .flag

/-- A member. -/
def MemberEntry.read : Datum → Reading (MemberEntry Argument)
  | .table fs => MemberEntry.readFields fs
  | d => .flaw .notMember d

/-- The filter that a table describes, its entries under the given names. -/
def SummaryFilter.readFields (since upTo : String) (fs : Fields) : Reading SummaryFilter :=
  (fun since upTo status limit => ⟨⟨since, upTo, status⟩, limit⟩) <$>
    fs.readOr since none (.optional .moment) <*> fs.readOr upTo none (.optional .moment) <*>
    fs.readOr "status" none (.optional .status) <*> fs.readOr "limit" 0 .integer

end ReviewRota
