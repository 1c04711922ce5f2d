/-
  ReviewRota — who holds open reviews.

  As long as nobody is switched off by name, the reviewers of open pull requests are
  active: only active users are picked, and whoever is switched off with a team loses
  the open reviews in the same step.

  * `Store.Present`: the user is there and active; `Store.Attended`: so is every
    reviewer of an open pull request;
  * `Request.Dismisses`: the request switches somebody off by name;
  * `Deed.attended`: no other request makes a reviewer of an open pull request inactive;
  * `Session.Lenient`: no step of a run makes such a request, and
    `Session.attended_along`: then every store of the run is attended.
-/
import ReviewRota.Proofs.Integrity

namespace ReviewRota

namespace Store

variable {s t : Store} {p : PullRequest} {id name team r : String} {members : List Member}
  {gone : List String} {now : Moment} {most : Int} {view : PullView}

/-- The user is there and active. -/
def Present (s : Store) (id : String) : Prop := ∃ u ∈ s.users, u.id = id ∧ u.active

/-- Every reviewer of every open pull request is an active user. -/
def Attended (s : Store) : Prop :=
  ∀ p ∈ s.pulls, p.status = .opened → ∀ r ∈ s.reviewers p.id, s.Present r

theorem Present.knows (h : s.Present id) : s.Knows id := by
  obtain ⟨u, hu, he, -⟩ := h
  exact ⟨u, hu, he⟩

theorem Present.of_users_eq (h : s.Present id) (hu : t.users = s.users) : t.Present id := by
  rwa [Present, hu]

theorem Attended.empty : Attended {} := nofun

/-- Users may change as long as those who are active stay so. -/
theorem Attended.of_users (h : s.Attended) (hp : t.pulls = s.pulls)
    (ha : t.assignments = s.assignments) (hu : ∀ r, s.Present r → t.Present r) : t.Attended := by
  intro p hmem ho r hr
  rw [hp] at hmem
  rw [reviewers, ha] at hr
  exact hu r (h p hmem ho r hr)

/-! ## A new team -/

theorem Present.putMember {m : Member} (h : s.Present r) (hm : m.userId = r → m.active) :
    (s.putMember team m now).Present r := by
  obtain ⟨u, hu, rfl, ha⟩ := h
  unfold Store.putMember
  split
  next =>
    refine ⟨_, List.mem_map_of_mem hu, ?_, ?_⟩
    · split <;> rfl
    · split
      next he => exact hm he.symm
      next => exact ha
  next => exact ⟨u, List.mem_append_left _ hu, rfl, ha⟩

theorem Present.putAll (h : s.Present r) (hm : ∀ m ∈ members, m.userId = r → m.active) :
    (members.foldl (fun s m => s.putMember team m now) s).Present r := by
  induction members generalizing s with
  | nil => exact h
  | cons m members ih =>
    exact ih (h.putMember (hm m List.mem_cons_self)) fun m' h' => hm m' (List.mem_cons_of_mem _ h')

/-- A new team whose entries for known users are active takes nobody from a review:
    a reviewer of an open pull request is known. -/
theorem Attended.founded (h : s.Attended)
    (hm : ∀ m ∈ members, s.Knows m.userId → m.active) : (s.founded name members now).Attended := by
  refine h.of_users putAll_pulls putAll_assignments fun r hr => ?_
  refine Present.putAll (hr.of_users_eq rfl) fun m hmem he => hm m hmem ?_
  rw [he]
  exact hr.knows

/-! ## One user -/

theorem Attended.activated (h : s.Attended) : (s.setActive id true now).Attended := by
  refine h.of_users rfl rfl fun r hr => ?_
  obtain ⟨u, hu, rfl, ha⟩ := hr
  refine ⟨_, List.mem_map_of_mem hu, ?_, ?_⟩
  · split <;> rfl
  · split
    · rfl
    · exact ha

/-! ## One pull request -/

theorem Attended.merged (h : s.Attended) : (s.setStatus id .merged now).Attended := by
  intro q hq ho r hr
  obtain ⟨p, hp, rfl⟩ := List.mem_map.1 hq
  split at ho
  next => cases ho
  next hne =>
    rw [if_neg hne] at hr
    exact h p hp ho r hr

theorem Opening.attended (h : Opening most now s view t) (hs : s.Sound) (ha : s.Attended) :
    t.Attended := by
  obtain ⟨hf, -, ⟨u, -, -, -, hsub, -⟩, rfl⟩ := h
  intro p hp ho r hr
  rcases List.mem_append.1 hp with hp | hp
  · have hne : p.id ≠ view.id := pull?_eq_none_iff.1 hf p hp
    rw [reviewers_congr (seats_opened_of_ne hne)] at hr
    exact ha p hp ho r hr
  · rw [List.mem_singleton.1 hp] at hr
    have hpicked := (reviewers_opened_perm (hs.seats_eq_nil hf)).mem_iff.1 hr
    obtain ⟨v, hv, hadmits, rfl⟩ := mem_candidates.1 (hsub.subset hpicked)
    exact ⟨v, hv, rfl, (Pool.admits_iff.1 hadmits).1⟩

theorem Attended.handOver {leaving : String} {joining : Option String} (h : s.Attended)
    (hj : ∀ j ∈ joining, s.MayJoin p j) : (s.handOver p.id leaving joining now).Attended := by
  intro q hq ho r hr
  rw [handOver_pulls] at hq
  refine Present.of_users_eq ?_ handOver_users
  rcases mem_reviewers_of_handOver hr with hr | hr
  · exact (hj r hr).active
  · exact h q hq ho r hr

/-! ## A team switched off -/

/-- Whoever reviews after some repairs has done so before, or was active. -/
theorem Repairs.mem_reviewers (h : Repairs team gone now s t) (hr : r ∈ t.reviewers id) :
    r ∈ s.reviewers id ∨ s.Present r := by
  induction h with
  | refl => exact .inl hr
  | tail h hrepair ih =>
    obtain ⟨-, -, -, -, hj, -⟩ := hrepair
    rcases mem_reviewers_of_handOver hr with hr | hr
    · obtain ⟨⟨u, hu, ha, -, rfl⟩, -⟩ := mem_standIns.1 (hj r hr)
      exact .inr (Present.of_users_eq ⟨u, hu, rfl, ha⟩ (Repairs.users_eq h).symm)
    · exact ih hr

/-- Whoever is active stays so when a team is switched off, or was active in it. -/
theorem Present.switchOff (h : s.Present r) (hr : r ∉ s.activeMembers team) :
    (s.switchOff team now).Present r := by
  obtain ⟨u, hu, rfl, ha⟩ := h
  refine ⟨_, List.mem_map_of_mem hu, User.switchedOff_id, ?_⟩
  exact User.switchedOff_active.2 ⟨ha, fun ht => hr (mem_activeMembers.2 ⟨u, hu, ⟨ht, ha⟩, rfl⟩)⟩

/-- Once all open reviews of those who were switched off are repaired, the reviewers of
    open pull requests are active again. -/
theorem Attended.deactivated (h : s.Attended)
    (hc : Desk.Cascading team (s.activeMembers team) now (s.switchOff team now) [] t) :
    t.Attended := by
  intro p hp ho r hr
  rw [hc.run.pulls_eq] at hp
  -- nobody of the team is left, so whoever reviewed before was active in another team
  have hstays : r ∉ s.activeMembers team := hc.cleared p hp ho List.not_mem_nil r hr
  refine Present.of_users_eq ?_ hc.run.users_eq
  rcases hc.run.mem_reviewers hr with hbefore | hpresent
  · exact (h p hp ho r hbefore).switchOff hstays
  · exact hpresent

end Store

/-! ## Requests -/

/-- The request switches off a user who is known: it sets the flag, or it enters the user
    into a new team as inactive. -/
def Request.Dismisses (s : Store) : Request String → Prop
  | .setUserActive _ active => active = false
  | .createTeam _ members => ∃ m ∈ members, m.active = false ∧ s.Knows m.userId
  | _ => False

instance {s : Store} : DecidablePred (Request.Dismisses s)
  | .setUserActive _ active => inferInstanceAs (Decidable (active = false))
  | .createTeam _ members =>
    inferInstanceAs (Decidable (∃ m ∈ members, m.active = false ∧ ∃ u ∈ s.users, u.id = m.userId))
  | .showTeam _ | .reviewsOf _ | .openPull .. | .replaceReviewer .. | .merge _
  | .deactivateTeam _ | .overview | .summary _ | .reviewerReport .. | .pullReport _ => .isFalse id

open Store in
theorem Desk.Deed.attended {most : Int} {now : Moment} {s t : Store} {r : Request String}
    {a : Answer} (h : Deed most now s r a t) (hr : ¬ r.Dismisses s) (hs : s.Sound)
    (ha : s.Attended) : t.Attended := by
  cases h with
  | founded =>
    refine ha.founded fun m hm hk => ?_
    by_contra hoff
    exact hr ⟨m, hm, Bool.eq_false_iff.2 hoff, hk⟩
  | @flagged _ active =>
    cases active with
    | true => exact ha.activated
    | false => exact absurd rfl hr
  | opened ho => exact ho.attended hs ha
  | @replaced p _ joining _ _ _ _ hj =>
    have hjoin : ∀ j ∈ some joining, s.MayJoin p j := fun j h => Option.some.inj h ▸ hj
    exact ha.handOver hjoin
  | merged hm =>
    obtain ⟨p, -, -, -, rfl⟩ := hm
    exact ha.merged
  | deactivated hc => exact ha.deactivated hc

/-! ## Runs -/

/-- The step makes a request that switches off a user who is known. -/
def Step.Dismisses (s : Session) (x : Step) : Prop :=
  ∃ r ∈ (x.action.request? x.site).bind Request.complete?, r.Dismisses s.store

instance {s : Session} {x : Step} : Decidable (x.Dismisses s) :=
  inferInstanceAs (Decidable (∃ r ∈ (x.action.request? x.site).bind Request.complete?,
    r.Dismisses s.store))

namespace Session

variable {engine : Settings.Engine} {s start : Session} {x : Step} {steps before : List Step}

/-- None of the steps, taken one after another, makes a request that switches off a user
    who is known. -/
def Lenient (s : Session) : List Step → Prop
  | [] => True
  | x :: steps => ¬ x.Dismisses s ∧ (s.next x).Lenient steps

instance decidableLenient (s : Session) : (steps : List Step) → Decidable (s.Lenient steps)
  | [] => .isTrue trivial
  | x :: steps =>
    have := (s.next x).decidableLenient steps
    inferInstanceAs (Decidable (¬ x.Dismisses s ∧ (s.next x).Lenient steps))

theorem next_attended (hx : x.Regular engine) (hd : ¬ x.Dismisses s) (hs : s.store.Sound)
    (ha : s.store.Attended) : (s.next x).store.Attended := by
  rcases next_deed hx hs with he | ⟨_, p, -, -, -, he⟩ | ⟨r, hr, r', _, hc, h⟩
  · rw [he]
    exact ha
  · rw [he]
    exact ha.merged
  · exact h.attended (fun hoff => hd ⟨r', Option.mem_bind_iff.2 ⟨r, hr, hc⟩, hoff⟩) hs ha

theorem attended_before (h : ∀ x ∈ steps, Step.Regular engine x) (hl : s.Lenient steps)
    (hs : s.store.Sound) (ha : s.store.Attended) (hb : before <+: steps) :
    (s.along before).store.Attended := by
  induction steps generalizing s before with
  | nil =>
    rw [List.prefix_nil.1 hb]
    exact ha
  | cons x steps ih =>
    cases before with
    | nil => exact ha
    | cons y before =>
      obtain ⟨rfl, hrest⟩ := List.cons_prefix_cons.1 hb
      have hx := h y List.mem_cons_self
      have hrun : (s.along (y :: before)).store = ((s.next y).along before).store := rfl
      rw [hrun]
      exact ih (fun z hz => h z (List.mem_cons_of_mem _ hz)) hl.2 (next_sound hx hs)
        (next_attended hx hl.1 hs ha) hrest

/-- **Open reviews are held by active users.**  In a run from an empty store in which
    nobody is switched off by name, with teams switched off, users moved or switched on,
    and steps failing as they may, every reviewer of every open pull request is an
    active user at all times. -/
theorem attended_along (hstart : start.store = {}) (h : ∀ x ∈ steps, Step.Regular engine x)
    (hl : start.Lenient steps) (hb : before <+: steps) :
    ∀ p ∈ (start.along before).store.pulls, p.status = .opened →
      ∀ r ∈ (start.along before).store.reviewers p.id,
        ∃ u ∈ (start.along before).store.users, u.id = r ∧ u.active :=
  attended_before h hl (hstart ▸ .empty) (hstart ▸ .empty) hb

/-- A reviewer moves to a new team, into which somebody inactive is entered as well; then
    the teams of the reviewers are switched off in turn until nobody is left to stand in,
    and somebody comes back. -/
def shifting : List Step :=
  [{ action := .desk (.createTeam (.text "qa") [⟨.text "dan", .text "Dan", true⟩,
      ⟨.text "hal", .text "Hal", false⟩]) },
    { action := .service (.deactivateTeam (.text "core")) },
    { action := .desk (.deactivateTeam (.text "ops")) },
    { action := .service (.deactivateTeam (.text "qa")) },
    { action := .service (.setUserActive (.text "eve") true) }]

theorem attended_along_shifting :
    let s := blank.along (opening ++ shifting)
    s.store.pulls.map (fun p => (p.status, s.store.reviewers p.id)) = [(.opened, ["gil"])] ∧
      ∀ p ∈ s.store.pulls, p.status = .opened → ∀ r ∈ s.store.reviewers p.id,
        ∃ u ∈ s.store.users, u.id = r ∧ u.active := by
  have hregular : ∀ x ∈ opening ++ shifting, Step.Regular {} x := by decide +kernel
  have hlenient : blank.Lenient (opening ++ shifting) := by decide +kernel
  exact ⟨by decide +kernel, attended_along rfl hregular hlenient List.prefix_rfl⟩

end Session

end ReviewRota
