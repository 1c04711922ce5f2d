/-
  ReviewRota — what rows name.

  Nothing in the store checks that a row which another row names is there.  It always
  is, because the desk looks a row up before it writes a name of it, and because no
  team, user or pull request is ever removed.

  * `Store.Knows`: there is a user of this id;
  * `Store.Linked`: all teams and users that rows name are there; `Edit.linked` and
    `Opening.linked`, by one lemma for each kind of write, say that it stays so;
  * `Store.shown` is a team as it is shown, and `Linked.members_perm`: these teams hold
    every user once;
  * `Session.Reachable.integrity`: so it is in every reachable session.
-/
import ReviewRota.Proofs.Answers

namespace ReviewRota

namespace Store

variable {s t : Store} {p : PullRequest} {id leaving : String} {joining : Option String}
  {now : Moment} {most : Int} {view : PullView}

/-- There is a user of this id. -/
def Knows (s : Store) (id : String) : Prop := ∃ u ∈ s.users, u.id = id

/-- No name of a team is taken twice, and all teams and users that rows name are
    there. -/
structure Linked (s : Store) : Prop where
  teams : (s.teams.map Team.name).Nodup
  placed : ∀ u ∈ s.users, ∃ t ∈ s.teams, t.name = u.team
  authored : ∀ p ∈ s.pulls, s.Knows p.author
  manned : ∀ a ∈ s.assignments, s.Knows a.reviewer
  left : ∀ h ∈ s.history, s.Knows h.leaving
  joined : ∀ h ∈ s.history, ∀ j ∈ h.joining, s.Knows j

/-! ## One lemma for each kind of write -/

namespace Linked

theorem empty : Linked {} := ⟨.nil, nofun, nofun, nofun, nofun, nofun⟩

theorem knows_reviewer (h : s.Linked) (hr : id ∈ s.reviewers p.id) : s.Knows id := by
  obtain ⟨a, ha, -, rfl⟩ := mem_reviewers.1 hr
  exact h.manned a ha

theorem addTeam (h : s.Linked) (hn : s.team? id = none) :
    Linked { s with teams := s.teams ++ [⟨id, now, now⟩] } := by
  refine { h with
    teams := nodup_map_concat h.teams (team?_eq_none_iff.1 hn)
    placed := fun u hu => ?_ }
  obtain ⟨team, hteam, he⟩ := h.placed u hu
  exact ⟨team, List.mem_append_left _ hteam, he⟩

/-- Users may change as long as all of them stay, each in a team that is there. -/
theorem withUsers {users : List User} (h : s.Linked)
    (hstay : ∀ u ∈ s.users, ∃ v ∈ users, v.id = u.id)
    (hplaced : ∀ v ∈ users, ∃ t ∈ s.teams, t.name = v.team) : Linked { s with users } := by
  have hknows : ∀ id, s.Knows id → Knows { s with users } id := by
    rintro id ⟨u, hu, rfl⟩
    exact hstay u hu
  exact ⟨h.teams, hplaced, fun p hp => hknows _ (h.authored p hp),
    fun a ha => hknows _ (h.manned a ha), fun e he => hknows _ (h.left e he),
    fun e he j hj => hknows _ (h.joined e he j hj)⟩

/-- The same where every user row is changed by itself. -/
theorem mapUsers {f : User → User} (h : s.Linked) (hid : ∀ u, (f u).id = u.id)
    (hteam : ∀ u ∈ s.users, (f u).team = u.team ∨ ∃ t ∈ s.teams, t.name = (f u).team) :
    Linked { s with users := s.users.map f } := by
  refine h.withUsers (fun u hu => ⟨f u, List.mem_map_of_mem hu, hid u⟩) fun v hv => ?_
  obtain ⟨u, hu, rfl⟩ := List.mem_map.1 hv
  rcases hteam u hu with he | he
  · rw [he]
    exact h.placed u hu
  · exact he

theorem putMember {team : String} {m : Member} (h : s.Linked) (ht : (s.team? team).isSome) :
    (s.putMember team m now).Linked := by
  obtain ⟨found, hfound⟩ := Option.isSome_iff_exists.1 ht
  have hthere : ∃ t ∈ s.teams, t.name = team := ⟨found, mem_of_team? hfound⟩
  unfold Store.putMember
  split
  next =>
    refine h.mapUsers (fun u => ?_) fun u _ => ?_
    · split <;> rfl
    · split
      · exact .inr hthere
      · exact .inl rfl
  next =>
    refine h.withUsers (fun u hu => ⟨u, List.mem_append_left _ hu, rfl⟩) fun v hv => ?_
    rcases List.mem_append.1 hv with hv | hv
    · exact h.placed v hv
    · rw [List.mem_singleton.1 hv]
      exact hthere

theorem setActive {active : Bool} (h : s.Linked) : (s.setActive id active now).Linked := by
  refine h.mapUsers (fun u => ?_) fun u _ => .inl ?_
  all_goals split <;> rfl

theorem switchOff {team : String} (h : s.Linked) : (s.switchOff team now).Linked :=
  h.mapUsers (fun _ => User.switchedOff_id) fun _ _ => .inl User.switchedOff_team

theorem setStatus {status : Status} (h : s.Linked) : (s.setStatus id status now).Linked := by
  refine { h with authored := fun q hq => ?_ }
  obtain ⟨p, hp, rfl⟩ := List.mem_map.1 hq
  have hauthor : (if p.id = id then p.withStatus status now else p).author = p.author := by
    split <;> rfl
  rw [hauthor]
  exact h.authored p hp

/-- A reviewer who is known may leave for one who is known. -/
theorem handOver (h : s.Linked) (hl : s.Knows leaving) (hj : ∀ j ∈ joining, s.Knows j) :
    (s.handOver id leaving joining now).Linked := by
  have hknows : ∀ {r}, s.Knows r → (s.handOver id leaving joining now).Knows r := by
    intro r hr
    rwa [Knows, handOver_users]
  refine ⟨?_, ?_, ?_, fun a ha => hknows ?_, fun e he => hknows ?_, fun e he j hj' => hknows ?_⟩
  · rw [handOver_teams]
    exact h.teams
  · rw [handOver_teams, handOver_users]
    exact h.placed
  · rw [handOver_pulls]
    exact fun p hp => hknows (h.authored p hp)
  · cases joining with
    | none => exact h.manned a (List.mem_of_mem_filter ha)
    | some j =>
      rcases List.mem_append.1 ha with ha | ha
      · exact h.manned a (List.mem_of_mem_filter ha)
      · rw [List.mem_singleton.1 ha]
        exact hj j rfl
  all_goals
    rw [handOver_history] at he
    rcases List.mem_append.1 he with he | he
  · exact h.left e he
  · rw [List.mem_singleton.1 he]
    exact hl
  · exact h.joined e he j hj'
  · rw [List.mem_singleton.1 he] at hj'
    exact hj j hj'

/-- A pull request of an author who is known may be opened with reviewers who are. -/
theorem opened {rs : List String} (h : s.Linked) (ha : s.Knows p.author)
    (hr : ∀ r ∈ rs, s.Knows r) : (s.opened p rs now).Linked := by
  refine { h with authored := fun q hq => ?_, manned := fun a ha => ?_ }
  · rcases List.mem_append.1 hq with hq | hq
    · exact h.authored q hq
    · rw [List.mem_singleton.1 hq]
      exact ha
  · rcases List.mem_append.1 ha with ha | ha
    · exact h.manned a ha
    · obtain ⟨r, hmem, rfl⟩ := List.mem_map.1 ha
      exact hr r hmem

end Linked

/-! ## What the desk writes -/

theorem MayJoin.knows (h : s.MayJoin p id) : s.Knows id := by
  obtain ⟨u, hu, he, -⟩ := h.active
  exact ⟨u, hu, he⟩

theorem Edit.linked (h : Edit now s t) (hs : s.Linked) : t.Linked := by
  cases h with
  | addTeam hn => exact hs.addTeam hn
  | putMember ht => exact hs.putMember ht
  | setActive => exact hs.setActive
  | switchOff => exact hs.switchOff
  | merge => exact hs.setStatus
  | handOver _ _ hl hj => exact hs.handOver (hs.knows_reviewer hl) fun j h => (hj j h).knows

theorem Edits.linked (h : Edits now s t) (hs : s.Linked) : t.Linked := by
  induction h with
  | refl => exact hs
  | tail _ he ih => exact he.linked ih

theorem Opening.linked (h : Opening most now s view t) (hs : s.Linked) : t.Linked := by
  obtain ⟨-, -, ⟨u, hu, he, -, hsub, -⟩, rfl⟩ := h
  refine hs.opened ⟨u, hu, he⟩ fun r hr => ?_
  obtain ⟨v, hv, -, he⟩ := mem_candidates.1 (hsub.subset hr)
  exact ⟨v, hv, he⟩

/-! ## Members -/

/-- A team as it is shown. -/
def shown (s : Store) (t : Team) : TeamView := ⟨t.name, (s.members t.name).map User.member⟩

/-- The teams hold every user once. -/
theorem Linked.members_perm (h : s.Linked) (hs : s.Sound) :
    (s.teams.flatMap fun t => s.members t.name).Perm s.users := by
  have husers : s.users.Nodup := hs.users.of_map _
  have hteams : (s.teams.flatMap fun t => s.members t.name).Nodup := by
    refine List.nodup_flatMap.2 ⟨fun t _ => ?_, ?_⟩
    · exact (ascendingBy_perm _ _).nodup_iff.2 (husers.filter _)
    · refine (List.pairwise_map.1 h.teams).imp fun hne => ?_
      intro u hu hu'
      exact hne ((mem_members.1 hu).2.symm.trans (mem_members.1 hu').2)
  refine (List.perm_ext_iff_of_nodup hteams husers).2 fun u => ?_
  simp only [List.mem_flatMap, mem_members]
  constructor
  · rintro ⟨-, -, hu, -⟩
    exact hu
  · intro hu
    obtain ⟨t, ht, he⟩ := h.placed u hu
    exact ⟨t, ht, hu, he.symm⟩

theorem Linked.team?_eq (h : s.Linked) {team : Team} (ht : team ∈ s.teams) :
    s.team? team.name = some team := by
  cases hq : s.team? team.name with
  | none => exact absurd rfl (team?_eq_none_iff.1 hq team ht)
  | some found =>
    obtain ⟨hfound, he⟩ := mem_of_team? hq
    rw [List.inj_on_of_nodup_map h.teams hfound ht he]

end Store

/-! ## Sessions -/

namespace Session

variable {engine : Settings.Engine} {s : Session} {x : Step} {steps : List Step}

theorem next_linked (hx : x.Regular engine) (hs : s.store.Sound) (hl : s.store.Linked) :
    (s.next x).store.Linked := by
  rcases next_effect hx hs with h | ⟨_, h, -⟩
  · exact h.linked hl
  · exact h.linked hl

theorem Reachable.linked (h : s.Reachable engine) : s.store.Linked :=
  h.invariant .empty fun _ _ => next_linked

/-- **Rows name what is there.**  In every session that the desk can reach, the team of
    every user, the author of every pull request, the pull request and the user of every
    review, and all that the history names are in the store; no two teams have one name;
    and the members of the teams, as they are shown when asked for, are the users, each
    of them in one team and once. -/
theorem Reachable.integrity (h : s.Reachable engine) :
    ((∀ u ∈ s.store.users, ∃ t ∈ s.store.teams, t.name = u.team) ∧
      (∀ p ∈ s.store.pulls, s.store.Knows p.author) ∧
      (∀ a ∈ s.store.assignments,
        (∃ p ∈ s.store.pulls, p.id = a.pull) ∧ s.store.Knows a.reviewer) ∧
      (∀ e ∈ s.store.history, (∃ p ∈ s.store.pulls, p.id = e.pull) ∧ s.store.Knows e.leaving ∧
        ∀ j ∈ e.joining, s.store.Knows j) ∧
      (s.store.teams.map Team.name).Nodup) ∧
    (∀ t ∈ s.store.teams, ∀ x, x.Asks s (.showTeam (.text t.name)) → s.Spared x →
      (s.take x).1 = .ok (.answer (.team (s.store.shown t)))) ∧
    (s.store.teams.flatMap fun t => (s.store.shown t).members.map MemberEntry.userId).Perm
      (s.store.users.map User.id) ∧
    (s.store.users.map User.id).Nodup := by
  have hs : s.store.Sound := h.sound
  have hl : s.store.Linked := h.linked
  refine ⟨⟨hl.placed, hl.authored, fun a ha => ⟨hs.seated a ha, hl.manned a ha⟩,
    fun e he => ⟨hs.recorded e he, hl.left e he, hl.joined e he⟩, hl.teams⟩,
    fun t ht x hx hspared => ?_, ?_, hs.users⟩
  · obtain ⟨_, hr, rfl⟩ := take_answered hx hspared (Desk.showTeam_answer (hl.team?_eq ht))
    exact hr
  · have hids : (s.store.teams.flatMap fun t => (s.store.shown t).members.map MemberEntry.userId) =
        (s.store.teams.flatMap fun t => s.store.members t.name).map User.id := by
      rw [List.map_flatMap]
      simp only [Store.shown, List.map_map]
      rfl
    rw [hids]
    exact (hl.members_perm hs).map _

/-- The team that has taken over the reviews of another. -/
def standby : Team := ⟨"ops", ⟨0⟩, ⟨0⟩⟩

theorem integrity_closing :
    let s := (blank.along opening).along closing
    (s.store.history.length = 3 ∧ (∀ e ∈ s.store.history, (∃ p ∈ s.store.pulls, p.id = e.pull) ∧
      s.store.Knows e.leaving ∧ ∀ j ∈ e.joining, s.store.Knows j)) ∧
    (s.take { action := .service (.showTeam (.text standby.name)) }).1 =
      .ok (.answer (.team ⟨"ops", [⟨"eve", "Eve", true⟩, ⟨"fay", "Fay", true⟩]⟩)) ∧
    (s.store.teams.flatMap fun t => (s.store.shown t).members.map MemberEntry.userId).Perm
      (s.store.users.map User.id) := by
  obtain ⟨⟨-, -, -, hhistory, -⟩, hshow, hmembers, -⟩ := reachable_closing.integrity
  have hstandby : standby ∈ ((blank.along opening).along closing).store.teams := by decide +kernel
  have hview : ((blank.along opening).along closing).store.shown standby =
      ⟨"ops", [⟨"eve", "Eve", true⟩, ⟨"fay", "Fay", true⟩]⟩ := by decide +kernel
  refine ⟨⟨by decide +kernel, hhistory⟩, ?_, hmembers⟩
  rw [← hview]
  refine hshow _ hstandby _ (.service rfl ?_ ?_) (spared_of_fault rfl)
  · decide +kernel
  · decide +kernel

end Session

end ReviewRota
