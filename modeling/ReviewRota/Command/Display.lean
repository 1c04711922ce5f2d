/-
  ReviewRota — what commands show.

  A command that succeeds shows the answer of the service in panels and tables, a
  refused one shows the code and the wording of the refusal.  Ids and names are
  printed as they are, so a tag of console markup inside one counts as a tag.

  * `Command.request?` is the request that a command makes, if it makes one;
  * `Command.display` are the blocks for an answer, `refusalBlock` the one for a
    refusal, and `loadBlock` the one for settings that cannot be loaded.
-/
import ReviewRota.Command.Invocation
import ReviewRota.Console.Block
import ReviewRota.Request

namespace ReviewRota.Command

open Console

/-- The request of a command. -/
def request? : Command → Option (Request Argument)
  | serve .. | createTables => none
  | showTeam team => some (.showTeam (.text team))
  | deactivateTeam team => some (.deactivateTeam (.text team))
  | merge pull => some (.merge (.text pull))
  | reassign pull leaving => some (.replaceReviewer (.text pull) (.text leaving))
  | pullReport pull => some (.pullReport (.text pull))

/-! ## Parts -/

/-- A label and a value on a line. -/
def labelled (label value : String) : String := "[bold]" ++ label ++ ":[/bold] " ++ value

/-- Ids in a row, or a dash. -/
def idsText (ids : List String) : String := if ids.isEmpty then "-" else ", ".intercalate ids

/-- A time to the second, or a dash. -/
def timeText : Option Moment → String
  | some m => m.stamp
  | none => "-"

/-- The lines about a pull request. -/
def pullText (p : PullView) : String :=
  "\n".intercalate [labelled "ID" p.id, labelled "Name" p.title, labelled "Author" p.author,
    labelled "Status" p.status.name, labelled "Reviewers" (idsText p.reviewers),
    labelled "Merged" (timeText p.mergedAt)]

/-- The row of a member. -/
def memberRow (m : Member) : List String :=
  [m.userId, m.username, if m.active then "[green]yes[/green]" else "[red]no[/red]"]

/-- The row of an entry of the history; an empty id counts as none. -/
def handoverRow (h : Handover) : List String :=
  [h.changedAt.stamp, h.leaving, (h.joining.filter (· ≠ "")).getD "[red]removed[/red]"]

/-! ## Blocks -/

/-- A team as a table. -/
def teamBlock (t : TeamView) : Block :=
  .table ("Team " ++ t.team) ["User ID", "Username", "Active"] (t.members.map memberRow)

/-- The counters of a deactivation. -/
def deactivationBlock (team : String) (d : Deactivation) : Block :=
  .panel ("Team " ++ team ++ " deactivated") ("\n".intercalate
    [labelled "Deactivated users" (toString d.deactivated),
      labelled "Reviewers reassigned" (toString d.reassigned),
      labelled "Reviewers removed" (toString d.removed)])

/-- A replaced reviewer. -/
def replacementBlock (leaving joining : String) (p : PullView) : Block :=
  .panel "Reviewer Reassigned"
    ("[green]" ++ leaving ++ " replaced by " ++ joining ++ "[/green]\n\n" ++ pullText p)

/-- A pull request with its history. -/
def reportBlocks (r : PullReport) : List Block :=
  [.text ("[bold]" ++ r.id ++ "[/bold] " ++ r.title ++ " (" ++ r.status.name ++ "), reviewers: " ++
      idsText r.reviewers),
    .table ("Transfers: " ++ toString r.handovers.length)
      ["Changed At", "Old Reviewer", "New Reviewer"] (r.handovers.map handoverRow)]

/-- The blocks that a command shows for an answer. -/
def display : Command → Answer → List Block
  | _, .team view => [teamBlock view]
  | deactivateTeam team, .deactivation counts => [deactivationBlock team counts]
  | _, .pull view => [.panel "Pull Request Merged" (pullText view)]
  | reassign _ leaving, .replaced view joining => [replacementBlock leaving joining view]
  | _, .report report => reportBlocks report
  | _, _ => []

/-- The block for a refusal. -/
def refusalBlock (r : Refusal) : Block := .text ("[red]" ++ r.cause.code ++ ":[/red] " ++ r.message)

/-- The block for settings that cannot be loaded. -/
def loadBlock (f : Settings.LoadFailure) : Block :=
  .text ("[red]Error loading configuration:[/red] " ++ f.text)

/-- The block that tells that the log tells details. -/
def verboseBlock : Block := .text "[dim]Debug logging enabled[/dim]"

/-- The blocks that announce the web application. -/
def serveBlocks (host : String) (port : Int) : List Block :=
  [.text "[bold cyan]Starting Reviewpool API[/bold cyan]", .text ("[dim]Host:[/dim] " ++ host),
    .text ("[dim]Port:[/dim] " ++ toString port), .text ""]

/-- The block that tells that the tables are there. -/
def tablesBlock : Block := .text "[green]Schema created.[/green]"

end ReviewRota.Command
