/-
  ReviewRota — the shares of teams.

  A review counts for the team that its reviewer is in now.  So a team that is founded
  takes along the reviews of those who join it: it has what they have together, and each
  team that they come from has as much less.  No review is touched, and all other counts
  stay.

  * `Store.memberIds`: who is in a team, and `Linked.countIn_teams`: a team is counted with
    what its members have together;
  * `Store.memberIds_founded` and `memberIds_founded_of_ne`: who is in which team after one
    has been founded;
  * `Overview.Regroups`: how the counts change by that, and `Store.regroups_founded`: they
    do;
  * `Session.SetsUp`: the step founds a team, within or from outside;
    `SetsUp.founding`: what it does to the store, and `Session.Reachable.regrouped`: what is
    read before and after it.
-/
import ReviewRota.Proofs.Addresses
import ReviewRota.Proofs.Foundings
import ReviewRota.Proofs.Rankings
import ReviewRota.Proofs.Views

namespace ReviewRota

open Op

variable {name team id : String} {members : List Member} {now : Moment}

/-! ## Counts by key -/

/-- Counts of distinct keys are listed in the order of these. -/
theorem Desk.pairwise_byKey {counts : List (String × Nat)} (h : (counts.map Prod.fst).Nodup) :
    (byKey counts).Pairwise (·.1 < ·.1) := by
  have hpairs : (counts.map toLex).Nodup :=
    List.pairwise_map.2 ((List.pairwise_map.1 h).imp fun hne he => hne (congrArg Prod.fst he))
  have hlex : (byKey counts).Pairwise fun a b => toLex a < toLex b := by
    refine pairwise_sortBy_lt (fun a b => ?_) hpairs
    rw [Prod.Lex.toLex_le_toLex]
    simp
  have hne : (byKey counts).Pairwise (·.1 ≠ ·.1) :=
    List.pairwise_map.1 (((sortBy_perm _ _).map _).nodup_iff.2 h)
  refine (hlex.and hne).imp fun {a b} hab => ?_
  rcases Prod.Lex.toLex_lt_toLex.1 hab.1 with hlt | ⟨he, -⟩
  · exact hlt
  · exact absurd he hab.2

/-! ## Members and their team -/

namespace Store

variable {s : Store} {w : Window} {counts : List (String × Nat)}

/-- The ids of the members of a team. -/
def memberIds (s : Store) (team : String) : Finset String :=
  ((s.members team).map User.id).toFinset

theorem mem_memberIds : id ∈ s.memberIds team ↔ ∃ u ∈ s.users, u.team = team ∧ u.id = id := by
  simp [memberIds, mem_members, and_assoc]

/-- The team of a user is the one that has the user as a member. -/
theorem Linked.teamOf?_eq_some (h : s.Linked) (hs : s.Sound) :
    s.teamOf? id = some team ↔ id ∈ s.memberIds team := by
  simp only [teamOf?, Option.bind_eq_some_iff, Option.map_eq_some_iff, mem_memberIds]
  constructor
  · rintro ⟨u, hu, t, ht, rfl⟩
    exact ⟨u, (mem_of_user? hu).1, (mem_of_team? ht).2.symm, (mem_of_user? hu).2⟩
  · rintro ⟨u, hu, rfl, rfl⟩
    obtain ⟨t, ht, he⟩ := h.placed u hu
    exact ⟨u, hs.user?_eq hu, t, he ▸ h.team?_eq ht, he⟩

theorem Sound.countIn_reviewers (h : s.Sound) (hc : counts.Perm (s.countsByReviewer w)) :
    countIn counts id = s.load w id := by
  rw [countIn_of_perm (hc.trans (sortBy_perm _ _)), h.count_reviewers]

/-- **The share of a team** is what its members have together. -/
theorem Linked.countIn_teams (h : s.Linked) (hs : s.Sound) (hc : counts.Perm (s.countsByTeam w)) :
    countIn counts team = ∑ id ∈ s.memberIds team, s.load w id := by
  rw [countIn_of_perm (hc.trans (sortBy_perm _ _)), List.count, List.countP_filterMap]
  simp only [← hs.count_reviewers, ← countP_mem_eq_sum]
  -- review by review, it counts for the team just when its reviewer is one of the members
  refine List.countP_congr fun a _ => ?_
  simp only [← h.teamOf?_eq_some hs]
  cases s.teamOf? a.reviewer <;> simp

/-! ## A team founded -/

/-- In the new team are the users who are submitted for it. -/
theorem memberIds_founded (hs : s.Sound) (hl : s.Linked) (hn : s.team? name = none) :
    (s.founded name members now).memberIds name =
      (members.map MemberEntry.userId).toFinset := by
  have hmembers : ((s.founded name members now).members name).map User.member =
      Member.roster members := members_founded hs hl hn
  ext id
  rw [List.mem_toFinset, ← Member.mem_roster_ids, ← hmembers, List.map_map]
  exact List.mem_toFinset

/-- In the others are those who were, without them. -/
theorem memberIds_founded_of_ne (hs : s.Sound) (hn : s.team? name = none) (hne : team ≠ name) :
    (s.founded name members now).memberIds team =
      s.memberIds team \ (members.map MemberEntry.userId).toFinset := by
  ext id
  simp only [memberIds, members_founded_of_ne hs hn hne, Finset.mem_sdiff, List.mem_toFinset,
    List.mem_map, List.mem_filter, decide_eq_true_eq]
  constructor
  · rintro ⟨u, ⟨hu, hout⟩, rfl⟩
    exact ⟨⟨u, hu, rfl⟩, hout⟩
  · rintro ⟨⟨u, hu, rfl⟩, hout⟩
    exact ⟨u, ⟨hu, hout⟩, rfl⟩

/-- What users review does not depend on their teams. -/
theorem load_founded : (s.founded name members now).load w id = s.load w id := by
  rw [founded_eq]
  rfl

end Store

/-- How an overview changes when some users are put into a new team.  The counts by user, by
    pull request and by status stay.  The new team has what these users have together, and
    every other team what it had, without what those of them have who were its members.
    The teams that have anything are listed, by name. -/
structure Overview.Regroups (s : Store) (name : String) (ids : Finset String)
    (o o' : Overview) : Prop where
  users : o'.byUser = o.byUser
  pulls : o'.byPull = o.byPull
  statuses : o'.byStatus = o.byStatus
  gains : countIn o'.byTeam name = ∑ id ∈ ids, countIn o.byUser id
  loses : ∀ team, team ≠ name →
    countIn o'.byTeam team + ∑ id ∈ ids ∩ s.memberIds team, countIn o.byUser id =
      countIn o.byTeam team
  listed : ∀ c, c ∈ o'.byTeam ↔ 0 < c.2 ∧ c.2 = countIn o'.byTeam c.1
  ordered : o'.byTeam.Pairwise (·.1 < ·.1)

/-- **A team that is founded takes along the reviews of its members.** -/
theorem Store.regroups_founded {s : Store} (hs : s.Sound) (hl : s.Linked)
    (hn : s.team? name = none) :
    Overview.Regroups s name (members.map MemberEntry.userId).toFinset s.overview
      (s.founded name members now).overview := by
  have hs' : (s.founded name members now).Sound := (founded_edits hn).sound hs
  have hl' : (s.founded name members now).Linked := (founded_edits hn).linked hl
  have huser (id : String) : countIn s.overview.byUser id = s.load {} id :=
    hs.countIn_reviewers (sortBy_perm _ _)
  have hteam (team : String) : countIn s.overview.byTeam team =
      ∑ id ∈ s.memberIds team, s.load {} id := hl.countIn_teams hs (sortBy_perm _ _)
  have hteam' (team : String) : countIn (s.founded name members now).overview.byTeam team =
      ∑ id ∈ (s.founded name members now).memberIds team, s.load {} id :=
    (hl'.countIn_teams hs' (sortBy_perm _ _)).trans (Finset.sum_congr rfl fun _ _ => load_founded)
  constructor
  case users =>
    rw [founded_eq]
    rfl
  case pulls =>
    rw [founded_eq]
    rfl
  case statuses =>
    rw [founded_eq]
    rfl
  case gains =>
    rw [hteam', memberIds_founded hs hl hn]
    simp only [huser]
  case loses =>
    intro team hne
    rw [hteam', hteam, memberIds_founded_of_ne hs hn hne, Finset.inter_comm, add_comm]
    simp only [huser]
    exact Finset.sum_inter_add_sum_sdiff _ _ _
  case listed => exact fun c => mem_iff_countIn ((sortBy_perm _ _).trans (sortBy_perm _ _))
  case ordered => exact Desk.pairwise_byKey ((tallied_tally _).perm (sortBy_perm _ _)).once

/-! ## Steps that found a team -/

/-- A team has been founded, under a name that was free and with entries in which no text is
    missing. -/
def Store.Founding (now : Moment) (team : Argument) (entries : List (MemberEntry Argument))
    (s t : Store) : Prop :=
  ∃ name members, team = .text name ∧ entries.mapM MemberEntry.complete? = some members ∧
    s.team? name = none ∧ t = s.founded name members now

theorem Desk.createTeam_founds {c : Conditions} {s : Scene} {team : Argument}
    {entries : List (MemberEntry Argument)} : (performAny (.createTeam team entries)).Ends c s
      (fun _ t => s.store.Founding c.now team entries t.store) fun _ _ => True := by
  cases team with
  | text name =>
    cases hall : entries.mapM MemberEntry.complete? with
    | none =>
      rw [performAny_of_incomplete (complete?_createTeam hall)]
      exact (createWith_ends hall).mono (fun _ _ => False.elim) fun _ _ _ => trivial
    | some members =>
      rw [performAny_of_complete (complete?_createTeam hall)]
      refine ends_map.2 (createTeam_ends.mono (fun _ t h => ?_) fun _ _ _ => trivial)
      exact ⟨name, members, rfl, hall, h.1, h.2.1⟩
  | missing | broken =>
    refine .unitOfWork (fun _ => ?_) fun _ _ _ _ => trivial
    exact (unlessTaken_yields (P := fun _ => False) notStored_yields _ _).mono
      (fun _ _ => False.elim) fun _ _ h => h

namespace Session

variable {engine : Settings.Engine} {s : Session} {x : Step} {team : Argument}
  {entries : List (MemberEntry Argument)}

/-- The step sets up a team with some entries: it asks the desk or the service for that and
    is answered, or it asks for it from outside and is told of success. -/
inductive SetsUp (s : Session) (x : Step) (team : Argument)
    (entries : List (MemberEntry Argument)) : Prop
  | within {reply} : x.Makes (.createTeam team entries) → (s.take x).1 = .ok reply →
      SetsUp s x team entries
  | outside {r a} : x.action = .web r → r.Asks (.createTeam team entries) →
      (s.take x).1 = .ok (.response a) → a.status = 201 → SetsUp s x team entries

theorem SetsUp.founding (h : s.SetsUp x team entries) :
    s.store.Founding (s.arranged x.cue).clock team entries (s.next x).store := by
  cases h with
  | within hx hok =>
    obtain ⟨_, -, hfounding⟩ := take_of_makes hx Desk.createTeam_founds hok
    exact hfounding
  | @outside r a hx hasks hok hstatus =>
    have hends : (Service.perform (.createTeam team entries)).Ends
        (s.conditions x.site.settings.engine x.cue) (s.scene x.cue)
        (fun _ t => s.store.Founding (s.arranged x.cue).clock team entries t.store)
        fun _ _ => True := Service.perform_answered Desk.createTeam_founds
    obtain ⟨a', ha', ⟨_, hfounding, -⟩ | ⟨e, -, hlike⟩⟩ := take_web_of_ends
      (P := fun _ => s.store.Founding (s.arranged x.cue).clock team entries)
      (Q := fun _ _ => True) hx hasks.call? hends
    · exact hfounding
    · -- whatever fails is told with another status
      obtain rfl := Reply.response.inj (Except.ok.inj (hok.symm.trans ha'))
      have hbad : 400 ≤ a.status := hlike.status ▸ Http.le_replyTo_status
      omega

/-- **Shares follow the members.**  In every session that the desk can reach, and whenever a
    team is set up, whichever users are submitted for it, from however many teams and however
    often: between an overview before the step and one after it, the reviews of these users
    have gone over to the new team, and all other counts are the same. -/
theorem Reachable.regrouped (h : s.Reachable engine) (hx : s.SetsUp x team entries) :
    ∃ name members, team = .text name ∧ entries.mapM MemberEntry.complete? = some members ∧
      ∀ y z, y.Asks s .overview → s.Spared y → z.Asks (s.next x) .overview →
        (s.next x).Spared z → ∃ o o', (s.take y).1 = .ok (.answer (.overview o)) ∧
          ((s.next x).take z).1 = .ok (.answer (.overview o')) ∧
          Overview.Regroups s.store name (members.map MemberEntry.userId).toFinset o o' := by
  obtain ⟨name, members, hname, hall, hn, hstore⟩ := hx.founding
  refine ⟨name, members, hname, hall, fun y z hy hyspared hz hzspared => ?_⟩
  refine ⟨_, _, take_overview hy hyspared, take_overview hz hzspared, ?_⟩
  rw [hstore]
  exact Store.regroups_founded h.sound h.linked hn

/-- One of the two reviewers goes over to a new team, for which another user is submitted
    twice. -/
theorem regrouped_opening :
    let s := blank.along opening
    let members : List Member := [⟨"zoe", "Zoe", true⟩, ⟨"cyd", "Cyd", true⟩, ⟨"zoe", "Zo", false⟩]
    let x : Step := { action := .desk (.createTeam (.text "new")
      (members.map fun m => ⟨.text m.userId, .text m.username, m.active⟩)) }
    let o : Overview := ⟨[("cyd", 1), ("dan", 1)], [("p1", 2)], [(.opened, 1)], [("core", 2)]⟩
    let o' : Overview := { o with byTeam := [("core", 1), ("new", 1)] }
    (s.take { action := .desk .overview }).1 = .ok (.answer (.overview o)) ∧
    ((s.next x).take { action := .desk .overview }).1 = .ok (.answer (.overview o')) ∧
    Overview.Regroups s.store "new" {"cyd", "zoe"} o o' := by
  intro s members x o o'
  have hok : (s.take x).1 =
      .ok (.answer (.team ⟨"new", [⟨"cyd", "Cyd", true⟩, ⟨"zoe", "Zo", false⟩]⟩)) :=
    answerOf?_eq_some (by decide +kernel)
  have hbefore : (s.take { action := .desk .overview }).1 = .ok (.answer (.overview o)) :=
    answerOf?_eq_some (by decide +kernel)
  have hafter : ((s.next x).take { action := .desk .overview }).1 =
      .ok (.answer (.overview o')) :=
    answerOf?_eq_some (by decide +kernel)
  obtain ⟨name, entered, hname, hall, hboth⟩ :=
    reachable_opening.regrouped (.within (.inl rfl) hok)
  obtain rfl := Argument.text.inj hname
  obtain rfl : members = entered := Option.some.inj hall
  obtain ⟨_, _, hy, hz, hregroups⟩ := hboth { action := .desk .overview }
    { action := .desk .overview } (.desk rfl) (spared_of_fault rfl) (.desk rfl)
    (spared_of_fault rfl)
  obtain rfl := Answer.overview.inj (Reply.answer.inj (Except.ok.inj (hbefore.symm.trans hy)))
  obtain rfl := Answer.overview.inj (Reply.answer.inj (Except.ok.inj (hafter.symm.trans hz)))
  refine ⟨hbefore, hafter, ?_⟩
  have hids : (members.map MemberEntry.userId).toFinset = {"cyd", "zoe"} := by decide +kernel
  rwa [hids] at hregroups

end Session

end ReviewRota
