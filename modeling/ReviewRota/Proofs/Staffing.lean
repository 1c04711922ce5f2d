/-
  ReviewRota — how many reviewers remain.

  While teams are switched off one after another, an open review may go to somebody
  whose team comes later, and who it goes to is drawn.  Yet the number of reviewers
  in the end is known from the start: those who are not switched off remain, and of
  the other places as many are taken over as there are users to take them.

  * `Store.activeIn`: the users who will be switched off;
  * `Store.kept`, `Store.slots`, `Store.spares`: the reviewers who remain, those whose
    places are to be taken, and the users who could take one in the end;
  * `Store.staffing`: the number of reviewers in the end, which neither
    `staffing_switchOff` nor `Repair.staffing` changes;
  * `Repairs.untouched`: which pull requests are left alone;
  * `Store.Deactivated`: what switching off some teams in turn amounts to, whatever
    their order is.
-/
import ReviewRota.Proofs.Cascade

namespace ReviewRota

namespace Store

variable {s t : Store} {p : PullRequest} {now : Moment} {team r leaving : String}
  {teams gone ids ids' : List String}

/-- The active members of some teams. -/
def activeIn (s : Store) (teams : List String) : List String :=
  (s.users.filter fun u => u.team ∈ teams ∧ u.active).map User.id

/-- The reviewers of a pull request who are not among the users. -/
def kept (s : Store) (ids : List String) (p : PullRequest) : List String :=
  (s.reviewers p.id).filter (· ∉ ids)

/-- The reviewers of a pull request who are among the users. -/
def slots (s : Store) (ids : List String) (p : PullRequest) : List String :=
  (s.reviewers p.id).filter (· ∈ ids)

/-- The active users who are not among the users and have no part in a pull request. -/
def spares (s : Store) (ids : List String) (p : PullRequest) : List String :=
  s.candidates { exclude := p.author :: (s.reviewers p.id ++ ids) }

/-- The number of reviewers that a pull request has once the users are switched off. -/
def staffing (s : Store) (ids : List String) (p : PullRequest) : Nat :=
  (s.kept ids p).length + min (s.slots ids p).length (s.spares ids p).length

/-! ## Active users -/

theorem activeIn_nil : s.activeIn [] = [] := by
  simp [activeIn]

theorem activeIn_congr {teams' : List String} (h : ∀ n, n ∈ teams ↔ n ∈ teams') :
    s.activeIn teams = s.activeIn teams' := by
  simp only [activeIn, h]

/-- Whoever is active in one of the teams is so in the first, or still is in another
    when the first is switched off. -/
theorem activeIn_cons_perm : (s.activeIn (team :: teams)).Perm
    (s.activeMembers team ++ (s.switchOff team now).activeIn teams) := by
  have hfirst : s.users.filter (fun u => u.team = team ∧ u.active) =
      (s.users.filter fun u => u.team ∈ team :: teams ∧ u.active).filter (·.team = team) := by
    rw [List.filter_filter]
    refine List.filter_congr fun u _ => ?_
    by_cases h : u.team = team <;> simp [h]
  have hrest : (s.switchOff team now).activeIn teams =
      ((s.users.filter fun u => u.team ∈ team :: teams ∧ u.active).filter
        (fun u => !decide (u.team = team))).map User.id := by
    rw [activeIn, switchOff_users, List.filter_map, List.map_map, List.filter_filter,
      show User.id ∘ User.switchedOff team now = User.id from funext fun _ => User.switchedOff_id]
    refine congrArg _ (List.filter_congr fun u _ => ?_)
    simp only [Function.comp_apply, User.switchedOff_team, User.switchedOff_active]
    by_cases h : u.team = team <;> simp [h]
  rw [hrest]
  refine .trans ?_ (((ascending_perm _).symm).append_right _)
  rw [hfirst, activeIn, ← List.map_append]
  exact (List.filter_append_perm _ _).symm.map _

/-! ## What a switch-off changes -/

theorem mem_spares : r ∈ s.spares ids p ↔ (∃ u ∈ s.users, u.active ∧ u.id = r) ∧ r ≠ p.author ∧
    r ∉ s.reviewers p.id ∧ r ∉ ids := by
  simp only [spares, mem_candidates, Pool.admits_iff, List.mem_cons, List.mem_append, not_or]
  constructor
  · rintro ⟨u, hu, ⟨ha, -, -, h₁, h₂, h₃⟩, rfl⟩
    exact ⟨⟨u, hu, ha, rfl⟩, h₁, h₂, h₃⟩
  · rintro ⟨⟨u, hu, ha, rfl⟩, h₁, h₂, h₃⟩
    exact ⟨u, hu, ⟨ha, nofun, nofun, h₁, h₂, h₃⟩, rfl⟩

theorem mem_slots : r ∈ s.slots ids p ↔ r ∈ s.reviewers p.id ∧ r ∈ ids := by
  simp [slots]

/-- The number of reviewers in the end depends on who reviews, on who of these is
    switched off, and on who could take a place. -/
theorem Sound.staffing_congr (hs : s.Sound) (ht : t.Sound)
    (hrs : t.reviewers p.id = s.reviewers p.id) (hids : ∀ r ∈ s.reviewers p.id, r ∈ ids' ↔ r ∈ ids)
    (hsp : ∀ r, r ∈ t.spares ids' p ↔ r ∈ s.spares ids p) :
    t.staffing ids' p = s.staffing ids p := by
  have hkept : t.kept ids' p = s.kept ids p := by
    rw [kept, hrs]
    exact List.filter_congr fun r hr => by simp [hids r hr]
  have hslots : t.slots ids' p = s.slots ids p := by
    rw [slots, hrs]
    exact List.filter_congr fun r hr => by simp [hids r hr]
  have hspares : (t.spares ids' p).Perm (s.spares ids p) :=
    (List.perm_ext_iff_of_nodup (ht.nodup_candidates _) (hs.nodup_candidates _)).2 hsp
  rw [staffing, hkept, hslots, hspares.length_eq]
  rfl

theorem Sound.staffing_switchOff (hs : s.Sound) (hsub : ∀ r ∈ s.activeMembers team, r ∈ ids) :
    (s.switchOff team now).staffing ids p = s.staffing ids p := by
  refine hs.staffing_congr ((Edit.switchOff).sound hs) rfl (fun _ _ => Iff.rfl) fun r => ?_
  rw [mem_spares, mem_spares, switchOff_users]
  refine and_congr_left fun ⟨_, _, hr⟩ => ⟨?_, ?_⟩
  · rintro ⟨u, hu, ha, rfl⟩
    obtain ⟨v, hv, rfl⟩ := List.mem_map.1 hu
    exact ⟨v, hv, (User.switchedOff_active.1 ha).1, User.switchedOff_id.symm⟩
  · rintro ⟨u, hu, ha, rfl⟩
    refine ⟨_, List.mem_map_of_mem hu, User.switchedOff_active.2 ⟨ha, fun ht => ?_⟩,
      User.switchedOff_id⟩
    exact hr (hsub _ (mem_activeMembers.2 ⟨u, hu, ⟨ht, ha⟩, rfl⟩))

/-- Once the reviews of those who are gone are repaired, only the others count. -/
theorem Sound.staffing_rest (hs : s.Sound) (hgone : Gone gone s)
    (hcleared : ∀ r ∈ s.reviewers p.id, r ∉ gone) (hids : ∀ r, r ∈ ids ↔ r ∈ gone ∨ r ∈ ids') :
    s.staffing ids' p = s.staffing ids p := by
  refine hs.staffing_congr hs rfl (fun r hr => ?_) fun r => ?_
  · rw [hids, or_iff_right (hcleared r hr)]
  · rw [mem_spares, mem_spares]
    refine and_congr_right fun ⟨u, hu, ha, he⟩ => ?_
    have hr : r ∉ gone := by
      rintro h
      rw [hgone u hu (he ▸ h)] at ha
      cases ha
    rw [hids, or_iff_right hr]

/-! ## What a repair changes -/

/-- No member of the team is active. -/
def Idle (team : String) (s : Store) : Prop := ∀ u ∈ s.users, u.team = team → u.active = false

theorem idle_switchOff : Idle team (s.switchOff team now) := by
  intro u hu ht
  rw [switchOff_users] at hu
  obtain ⟨v, hv, rfl⟩ := List.mem_map.1 hu
  rw [User.switchedOff_team] at ht
  rw [← Bool.not_eq_true, User.switchedOff_active]
  exact fun h => h.2 ht

theorem Idle.of_users_eq (h : Idle team s) (hu : t.users = s.users) : Idle team t := by
  rwa [Idle, hu]

theorem perm_cons_filter_ne {rs : List String} (h : rs.Nodup) (hl : leaving ∈ rs) :
    rs.Perm (leaving :: rs.filter (· ≠ leaving)) := by
  have he : rs.filter (· ≠ leaving) = rs.erase leaving := by
    rw [h.erase_eq_filter]
    exact List.filter_congr fun r _ => by by_cases h : r = leaving <;> simp [h]
  rw [he]
  exact List.perm_cons_erase hl

variable {joining : Option String}

theorem Sound.length_kept_handOver (joining : Option String) (now : Moment) (hs : s.Sound)
    (hl : leaving ∈ ids) (hr : leaving ∈ s.reviewers p.id) :
    ((s.handOver p.id leaving joining now).kept ids p).length =
      (joining.toList.filter (· ∉ ids)).length + (s.kept ids p).length := by
  have hbefore := ((perm_cons_filter_ne (hs.once p.id) hr).filter (· ∉ ids)).length_eq
  have hafter : ((s.handOver p.id leaving joining now).reviewers p.id).Perm
      (joining.toList ++ (s.reviewers p.id).filter (· ≠ leaving)) := reviewers_handOver_perm
  rw [kept, kept, hbefore, (hafter.filter _).length_eq, List.filter_append, List.length_append,
    List.filter_cons_of_neg (by simpa using hl)]

theorem Sound.length_slots_handOver (joining : Option String) (now : Moment) (hs : s.Sound)
    (hl : leaving ∈ ids) (hr : leaving ∈ s.reviewers p.id) :
    ((s.handOver p.id leaving joining now).slots ids p).length + 1 =
      (joining.toList.filter (· ∈ ids)).length + (s.slots ids p).length := by
  have hbefore := ((perm_cons_filter_ne (hs.once p.id) hr).filter (· ∈ ids)).length_eq
  have hafter : ((s.handOver p.id leaving joining now).reviewers p.id).Perm
      (joining.toList ++ (s.reviewers p.id).filter (· ≠ leaving)) := reviewers_handOver_perm
  rw [slots, slots, hbefore, (hafter.filter _).length_eq, List.filter_append, List.length_append,
    List.filter_cons_of_pos (by simpa using hl), List.length_cons, Nat.add_assoc]

/-- Who can take a place after a repair: all who could before but the one who has. -/
theorem mem_spares_handOver (hl : leaving ∈ ids) :
    r ∈ (s.handOver p.id leaving joining now).spares ids p ↔
      r ∈ s.spares ids p ∧ joining ≠ some r := by
  rw [mem_spares, mem_spares, handOver_users, mem_reviewers_handOver]
  constructor
  · rintro ⟨hu, hne, hrs, hr⟩
    refine ⟨⟨hu, hne, fun h => hrs (.inr ⟨h, fun he => hr (he ▸ hl)⟩), hr⟩, fun h => hrs (.inl h)⟩
  · rintro ⟨⟨hu, hne, hrs, hr⟩, hj⟩
    exact ⟨hu, hne, fun h => h.elim hj fun h => hrs h.1, hr⟩

theorem spares_handOver_eq_nil (hl : leaving ∈ ids) (h : s.spares ids p = []) :
    (s.handOver p.id leaving joining now).spares ids p = [] := by
  refine List.eq_nil_iff_forall_not_mem.2 fun r hr => ?_
  have hr := ((mem_spares_handOver hl).1 hr).1
  rw [h] at hr
  cases hr

/-- Whoever is spare could take over the review that is repaired. -/
theorem standIns_of_spares (leaving : String) (hidle : Idle team s) (h : r ∈ s.spares ids p) :
    r ∈ s.standIns team p leaving := by
  obtain ⟨⟨u, hu, ha, he⟩, hne, hrs, -⟩ := mem_spares.1 h
  refine mem_standIns.2 ⟨⟨u, hu, ha, fun ht => ?_, he⟩, hne, fun hr => absurd hr hrs⟩
  rw [hidle u hu ht] at ha
  cases ha

/-- Where nobody stands in, nobody is spare. -/
theorem spares_eq_nil (hidle : Idle team s) (h : s.standIns team p leaving = []) :
    s.spares ids p = [] := by
  refine List.eq_nil_iff_forall_not_mem.2 fun r hr => ?_
  have hr := standIns_of_spares leaving hidle hr
  rw [h] at hr
  cases hr

/-- A place that goes to somebody who keeps it makes one user fewer spare. -/
theorem Sound.length_spares_handOver {j : String} (hs : s.Sound)
    (ht : (s.handOver p.id leaving (some j) now).Sound) (hl : leaving ∈ ids)
    (hj : j ∈ s.standIns team p leaving) (hfresh : j ∉ s.reviewers p.id) :
    (s.spares ids p).length = ((s.handOver p.id leaving (some j) now).spares ids p).length +
      if j ∈ ids then 0 else 1 := by
  have hmem (r : String) : r ∈ (s.handOver p.id leaving (some j) now).spares ids p ↔
      r ∈ s.spares ids p ∧ j ≠ r := by
    rw [mem_spares_handOver hl, ne_eq, Option.some_inj]
  have hnodup : (s.spares ids p).Nodup := hs.nodup_candidates _
  have hnodup' : ((s.handOver p.id leaving (some j) now).spares ids p).Nodup :=
    ht.nodup_candidates _
  split
  next hjids =>
    refine ((List.perm_ext_iff_of_nodup hnodup hnodup').2 fun r => ?_).length_eq
    rw [hmem, iff_self_and]
    rintro h rfl
    exact (mem_spares.1 h).2.2.2 hjids
  next hjids =>
    obtain ⟨⟨u, hu, ha, -, he⟩, hne, -⟩ := mem_standIns.1 hj
    have hspare : j ∈ s.spares ids p := mem_spares.2 ⟨⟨u, hu, ha, he⟩, hne, hfresh, hjids⟩
    have hcons : (j :: (s.handOver p.id leaving (some j) now).spares ids p).Nodup :=
      List.nodup_cons.2 ⟨fun h => ((hmem j).1 h).2 rfl, hnodup'⟩
    refine ((List.perm_ext_iff_of_nodup hnodup hcons).2 fun r => ?_).length_eq
    rw [List.mem_cons, hmem]
    by_cases h : r = j
    · simp [h, hspare]
    · simp [h, Ne.symm h]

/-- A repair keeps the number of reviewers in the end: the place goes to somebody who
    will leave it again, or to somebody who keeps it and is spare no more; or nobody
    is spare at all. -/
theorem Sound.staffing_handOver (hs : s.Sound) (ht : (s.handOver p.id leaving joining now).Sound)
    (hidle : Idle team s) (hl : leaving ∈ ids) (hr : leaving ∈ s.reviewers p.id)
    (hj : ∀ j ∈ joining, j ∈ s.standIns team p leaving ∧ j ∉ s.reviewers p.id)
    (hn : joining = none → s.standIns team p leaving = []) :
    (s.handOver p.id leaving joining now).staffing ids p = s.staffing ids p := by
  have hkept := hs.length_kept_handOver joining now hl hr
  have hslots := hs.length_slots_handOver joining now hl hr
  unfold staffing
  cases joining with
  | none =>
    have hspares : s.spares ids p = [] := spares_eq_nil hidle (hn rfl)
    rw [hspares, spares_handOver_eq_nil hl hspares, hkept]
    simp
  | some j =>
    obtain ⟨hj, hfresh⟩ := hj j rfl
    have hspares := hs.length_spares_handOver ht hl hj hfresh
    by_cases hjids : j ∈ ids
    · simp [hjids] at hkept hslots hspares
      omega
    · simp [hjids] at hkept hslots hspares
      omega

theorem Repair.staffing (h : Repair team gone now s t) (hs : s.Sound) (hgone : Gone gone s)
    (hidle : Idle team s) (hsub : ∀ r ∈ gone, r ∈ ids) (hp : p ∈ s.pulls) :
    t.staffing ids p = s.staffing ids p := by
  have ht : t.Sound := (h.edit hgone).sound hs
  obtain ⟨hp', -, hl, hr, hj, hn⟩ := h
  rename_i p' leaving joining
  by_cases he : p.id = p'.id
  · obtain rfl := hs.pull_eq hp hp' he
    exact hs.staffing_handOver ht hidle (hsub _ hl) hr
      (fun j h => ⟨hj j h, hgone.standIn_fresh hl (hj j h)⟩) hn
  · have hrs : (s.handOver p'.id leaving joining now).reviewers p.id = s.reviewers p.id :=
      reviewers_congr (seats_handOver_of_ne he)
    refine hs.staffing_congr ht hrs (fun _ _ => Iff.rfl) fun r => ?_
    rw [mem_spares, mem_spares, handOver_users, hrs]

theorem Repairs.staffing (h : Repairs team gone now s t) (hs : s.Sound) (hgone : Gone gone s)
    (hidle : Idle team s) (hsub : ∀ r ∈ gone, r ∈ ids) (hp : p ∈ s.pulls) :
    t.staffing ids p = s.staffing ids p := by
  induction h with
  | refl => rfl
  | tail h hr ih =>
    have hu := Repairs.users_eq h
    have hp' := (Repairs.pulls_eq h).symm ▸ hp
    exact (hr.staffing ((Repairs.edits h hgone).sound hs) (hgone.of_users_eq hu)
      (hidle.of_users_eq hu) hsub hp').trans ih

/-- A pull request that is merged, or that nobody who is gone reviews, is left alone. -/
theorem Repairs.untouched (h : Repairs team gone now s t) (hs : s.Sound) (hp : p ∈ s.pulls)
    (hno : p.status = .opened → s.slots gone p = []) :
    t.seats p.id = s.seats p.id ∧ t.trail p.id = s.trail p.id := by
  induction h with
  | refl => exact ⟨rfl, rfl⟩
  | tail hrun h ih =>
    obtain ⟨hp', ho, hl, hlr, -, -⟩ := h
    rename_i p' leaving joining
    by_cases he : p.id = p'.id
    · obtain rfl := hs.pull_eq hp (Repairs.pulls_eq hrun ▸ hp') he
      rw [reviewers_congr ih.1] at hlr
      have hslot : leaving ∈ s.slots gone p := mem_slots.2 ⟨hlr, hl⟩
      rw [hno ho] at hslot
      cases hslot
    · exact ⟨(seats_handOver_of_ne he).trans ih.1, (trail_handOver_of_ne he).trans ih.2⟩

/-! ## Teams in turn -/

/-- What becomes of the store when some teams are switched off in turn, and of the
    counts that are answered: nothing in it depends on the order of the teams. -/
structure Deactivated (teams : List String) (s t : Store) (counts : List Deactivation) : Prop where
  total : (counts.map Deactivation.deactivated).sum = (s.activeIn teams).length
  flags : t.users.map (fun u => (u.id, u.active)) =
    s.users.map fun u => (u.id, u.active && decide (u.team ∉ teams))
  pulls : t.pulls = s.pulls
  merged : ∀ p ∈ s.pulls, p.status = .merged → t.reviewers p.id = s.reviewers p.id
  opened : ∀ p ∈ s.pulls, p.status = .opened →
    (t.reviewers p.id).length = s.staffing (s.activeIn teams) p

theorem Deactivated.nil : Deactivated [] s s [] := by
  refine ⟨?_, ?_, rfl, fun _ _ _ => rfl, fun p _ _ => ?_⟩
  · rw [activeIn_nil]
    rfl
  · simp
  · rw [activeIn_nil, staffing, kept, slots]
    simp

variable {u : Store} {d : Deactivation} {counts : List Deactivation}

/-- One team more at the front. -/
theorem Deactivated.cons (hs : s.Sound)
    (hd : d.deactivated = (s.activeMembers team).length)
    (hc : Desk.Cascading team (s.activeMembers team) now (s.switchOff team now) [] t)
    (h : Deactivated teams t u counts) : Deactivated (team :: teams) s u (d :: counts) := by
  have hoff : (s.switchOff team now).Sound := (Edit.switchOff).sound hs
  have hgone : Gone (s.activeMembers team) (s.switchOff team now) := hs.gone_switchOff
  have hactive : t.activeIn teams = (s.switchOff team now).activeIn teams := by
    rw [activeIn, hc.run.users_eq]
    rfl
  have hsplit : (s.activeIn (team :: teams)).Perm (s.activeMembers team ++ t.activeIn teams) :=
    hactive ▸ activeIn_cons_perm
  have hpulls : t.pulls = s.pulls := hc.run.pulls_eq
  refine ⟨?_, ?_, h.pulls.trans hpulls, fun p hp hm => ?_, fun p hp ho => ?_⟩
  · rw [List.map_cons, List.sum_cons, h.total, hd, hsplit.length_eq, List.length_append]
  · rw [h.flags, hc.run.users_eq, switchOff_users, List.map_map]
    refine List.map_congr_left fun v _ => Prod.ext User.switchedOff_id (Bool.eq_iff_iff.2 ?_)
    simp only [Function.comp_apply, User.switchedOff_team, Bool.and_eq_true, decide_eq_true_eq,
      User.switchedOff_active, List.mem_cons, not_or, and_assoc]
  · rw [h.merged p (hpulls ▸ hp) hm]
    have hno : p.status = .opened → (s.switchOff team now).slots (s.activeMembers team) p = [] := by
      rw [hm]
      exact nofun
    exact reviewers_congr (hc.run.untouched hoff hp hno).1
  · have ht : t.Sound := (hc.run.edits hgone).sound hoff
    have hsub : ∀ r ∈ s.activeMembers team, r ∈ s.activeIn (team :: teams) := fun r hr =>
      hsplit.mem_iff.2 (List.mem_append_left _ hr)
    have hcleared : ∀ r ∈ t.reviewers p.id, r ∉ s.activeMembers team :=
      hc.cleared p hp ho List.not_mem_nil
    rw [h.opened p (hpulls ▸ hp) ho]
    calc t.staffing (t.activeIn teams) p
        = t.staffing (s.activeIn (team :: teams)) p :=
          ht.staffing_rest (hgone.of_users_eq hc.run.users_eq) hcleared fun r => by
            rw [hsplit.mem_iff, List.mem_append]
      _ = (s.switchOff team now).staffing (s.activeIn (team :: teams)) p :=
          hc.run.staffing hoff hgone idle_switchOff hsub hp
      _ = s.staffing (s.activeIn (team :: teams)) p := hs.staffing_switchOff hsub

end Store

end ReviewRota
