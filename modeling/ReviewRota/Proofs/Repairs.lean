/-
  ReviewRota — how a team that is switched off is repaired.

  Which users take over the open reviews of a team is drawn; how many do is not.  Where
  the members of the team hold some places of a pull request, and some other users could
  take one, the first places are filled until the users run out, and the others are
  dropped.  The answer counts that, the history says it place by place, and a draw is
  taken for each place that is filled.

  * `Handover.slot`: the place that an entry of the history is about, and `Scene.Gains`:
    the entries that are new and the draws that were taken for them;
  * `Desk.repairSlot_gains` to `Desk.deactivateTeam_gains`: what one repair, those of one
    pull request and all of them add;
  * `Store.Repairs.filled`: the first places are filled, and the others are dropped;
    `Repairs.kept`, `Repairs.added` and `Repairs.joined`: what becomes of reviews;
  * `Store.outsiders`: the users of other teams who could take a place; `Store.filled` and
    `Store.dropped`: the numbers of places that are filled and dropped;
  * `Store.Cascaded`: what becomes of the store, and `Sound.cascaded`: it is what the loop
    does;
  * `Session.Cascades`: the step switches off a team and repairs its reviews, and
    `Session.Reachable.team_deactivated`: it does.
-/
import ReviewRota.Proofs.Counts
import ReviewRota.Proofs.Deals
import ReviewRota.Proofs.Reports
import ReviewRota.Proofs.Staffing

namespace ReviewRota

open Op

variable {c : Conditions} {team leaving r : String} {gone : List String} {p q : PullRequest}
  {now : Moment}

/-- The place that was repaired: the pull request, and whose place it was. -/
def Handover.slot (e : Handover) : String × String := (e.pull, e.leaving)

/-- The places of open pull requests that some users hold, in order. -/
def Store.placesOf (s : Store) (ids : List String) : List (String × String) :=
  (s.openReviewedBy ids).flatMap fun p => (s.slots ids p).map fun r => (p.id, r)

/-- The second scene has these entries of the history more than the first, made at this
    time, and has taken a draw for each of them in which somebody joins. -/
structure Scene.Gains (now : Moment) (s t : Scene) (es : List Handover) : Prop where
  history : t.store.history = s.store.history ++ es
  dated : ∀ e ∈ es, e.changedAt = now
  generator : t.generator = s.generator.skip (es.countP (·.joining.isSome))

namespace Scene.Gains

variable {s t u : Scene} {es fs : List Handover}

theorem nil (hstore : t.store.history = s.store.history) (hg : t.generator = s.generator) :
    s.Gains now t [] :=
  ⟨by rw [hstore, List.append_nil], nofun, by rw [hg]; rfl⟩

theorem trans (h : s.Gains now t es) (h' : t.Gains now u fs) : s.Gains now u (es ++ fs) := by
  refine ⟨?_, fun e he => ?_, ?_⟩
  · rw [h'.history, h.history, List.append_assoc]
  · exact (List.mem_append.1 he).elim (h.dated e) (h'.dated e)
  · rw [h'.generator, h.generator, Generator.skip_skip, List.countP_append]

end Scene.Gains

/-! ## What repairs add -/

namespace Desk

open Store

variable {s : Scene} {d : Deactivation}

/-- A repair takes a draw if it finds somebody. -/
theorem repairSlot_skip : (repairSlot team p leaving).Ends c s
    (fun joining t => t.generator = s.generator.skip joining.toList.length) fun _ _ => True := by
  refine .bind (.bind (.query (fun _ => .bind ?_) fun _ _ _ _ => trivial))
  refine ends_modify.2 (ends_pure.2 ?_)
  refine .bind (.query (fun _ => .bind (.query (fun _ => .bind (.drawing ?_))
    fun _ _ _ _ => trivial)) fun _ _ _ _ => trivial)
  refine Drawing.choice_skip.mono (fun joining g hg => ?_) fun _ _ _ => trivial
  have hrest (t : Scene) (ht : t.generator = g) : (do
      recordHandover p.id leaving joining
      report (.slotRepaired p.id leaving joining)
      pure joining).Ends c t
        (fun joining t => t.generator = s.generator.skip joining.toList.length)
        fun _ _ => True :=
    .bind (.write (fun _ => .bind (.report fun _ => ht.trans hg)) fun _ _ _ _ => trivial)
  cases joining with
  | none => exact hrest _ rfl
  | some j => exact .bind (.attempt (fun _ _ _ => hrest _ rfl) (fun _ _ _ => trivial)
      fun _ _ _ _ => trivial)

theorem repairSlot_gains : (repairSlot team p leaving).Ends c s
    (fun joining t => s.Gains c.now t [⟨p.id, leaving, joining, c.now⟩]) fun _ _ => True := by
  refine (repairSlot_skip.and repairSlot_ends).mono ?_ fun _ _ _ => trivial
  rintro joining t ⟨hg, hstore, -⟩
  refine ⟨?_, ?_, ?_⟩
  · rw [hstore, handOver_history]
  · simp
  · rw [hg]
    cases joining <;> rfl

/-- The places of one pull request are repaired in the order of their users. -/
theorem repairPull_gains : (repairPull team gone d p).Ends c s
    (fun _ t => ∃ es, s.Gains c.now t es ∧
      es.map Handover.slot = (s.store.slots gone p).map fun r => (p.id, r)) fun _ _ => True := by
  refine .bind (.query (fun _ => ?_) fun _ _ _ _ => trivial)
  refine Ends.mono (Ends.foldlM (I := fun rest _ t => ∃ done es,
    s.store.slots gone p = done ++ rest ∧ s.Gains c.now t es ∧
      es.map Handover.slot = done.map fun r => (p.id, r))
    (fun leaving rest d t h => ?_) ?_) ?_ fun _ _ h => h
  · obtain ⟨done, es, hsplit, hgains, hslots⟩ := h
    refine .bind (repairSlot_gains.mono (fun joining u hu => ends_pure.2 ?_) fun _ _ h => h)
    exact ⟨done ++ [leaving], _, by rw [hsplit, List.append_cons], hgains.trans hu,
      by simp [hslots, Handover.slot]⟩
  · exact ⟨[], [], rfl, .nil rfl rfl, rfl⟩
  · rintro _ t ⟨done, es, hsplit, hgains, hslots⟩
    rw [List.append_nil] at hsplit
    exact ⟨es, hgains, hsplit ▸ hslots⟩

/-- The pull requests are repaired one after another, and the repairs of one leave the
    reviewers of the others alone. -/
theorem repairAll_gains (hs : s.store.Sound) (hg : Gone gone s.store) :
    ((s.store.openReviewedBy gone).foldlM (repairPull team gone) d).Ends c s
      (fun _ t => ∃ es, s.Gains c.now t es ∧ es.map Handover.slot = s.store.placesOf gone)
      fun _ _ => True := by
  have hids : ((s.store.openReviewedBy gone).map PullRequest.id).Nodup :=
    ((ascendingBy_perm _ _).map _).nodup_iff.2 (hs.pulls.sublist (List.filter_sublist.map _))
  refine Ends.mono (Ends.foldlM (I := fun rest _ t => ∃ done es,
    s.store.openReviewedBy gone = done ++ rest ∧ s.Gains c.now t es ∧
      es.map Handover.slot = (done.flatMap fun p => (s.store.slots gone p).map fun r => (p.id, r)) ∧
      Repairs team gone c.now s.store t.store ∧
      ∀ q ∈ rest, t.store.reviewers q.id = s.store.reviewers q.id)
    (fun p rest d t h => ?_) ?_) ?_ fun _ _ h => h
  · obtain ⟨done, es, hsplit, hgains, hslots, hrun, hsame⟩ := h
    -- the reviewers of what is still to come are those from before the first repair
    obtain ⟨hp, ho, -⟩ := mem_openReviewedBy.1 (hsplit ▸ List.mem_append_right done
      List.mem_cons_self)
    have hother : ∀ q ∈ rest, q.id ≠ p.id := by
      intro q hq he
      rw [hsplit, List.map_append, List.map_cons] at hids
      have hout := (List.nodup_cons.1 (List.nodup_append.1 hids).2.1).1
      exact hout (he ▸ List.mem_map_of_mem hq)
    have hslotsp : t.store.slots gone p = s.store.slots gone p := by
      rw [slots, slots, hsame p List.mem_cons_self]
    refine (repairPull_gains.and (repairPull_ends ((hrun.edits hg).sound hs) (hrun.pulls_eq ▸ hp) ho
      (hg.of_users_eq hrun.users_eq))).mono ?_ fun _ _ _ => trivial
    rintro d' u ⟨⟨fs, hgains', hslots'⟩, hm, -⟩
    refine ⟨done ++ [p], es ++ fs, by rw [hsplit, List.append_cons], hgains.trans hgains', ?_,
      hrun.trans hm.run, fun q hq => ?_⟩
    · rw [List.map_append, hslots, hslots', hslotsp]
      simp
    · rw [hm.others q.id (hother q hq), hsame q (List.mem_cons_of_mem _ hq)]
  · exact ⟨[], [], rfl, .nil rfl rfl, rfl, .refl, fun _ _ => rfl⟩
  · rintro _ t ⟨done, es, hsplit, hgains, hslots, -⟩
    rw [List.append_nil] at hsplit
    exact ⟨es, hgains, by rw [hslots, placesOf, hsplit]⟩

theorem deactivateTeam_gains (hs : s.store.Sound) : (deactivateTeam team).Ends c s
    (fun _ t => ∃ es, s.Gains c.now t es ∧
      es.map Handover.slot = s.store.placesOf (s.store.activeMembers team)) fun _ _ => True := by
  refine deactivateTeam_loop ?_ fun calls => ?_
  · rintro _ t log ⟨es, hgains, hslots⟩
    exact ⟨es, ⟨hgains.history, hgains.dated, hgains.generator⟩, hslots⟩
  · have hsound : (s.store.switchOff team c.now).Sound := (Edit.switchOff : Edit c.now _ _).sound hs
    refine (repairAll_gains (s := { s with calls, store := s.store.switchOff team c.now }) hsound
      hs.gone_switchOff).mono ?_ fun _ _ h => h
    rintro _ t ⟨es, hgains, hslots⟩
    exact ⟨es, ⟨hgains.history, hgains.dated, hgains.generator⟩, hslots⟩

end Desk

/-! ## What repairs make of one pull request -/

namespace Store

variable {s t : Store} {ids : List String} {joining : Option String}

theorem spares_handOver_of_ne {pull : String} (h : p.id ≠ pull) :
    (s.handOver pull leaving joining now).spares ids p = s.spares ids p := by
  rw [spares, spares, candidates, candidates, handOver_users,
    reviewers_congr (seats_handOver_of_ne h)]

/-- A repair fills the place if somebody is spare, and then one user fewer is. -/
theorem Sound.spares_repaired (hs : s.Sound) (ht : (s.handOver p.id leaving joining now).Sound)
    (hgone : Gone gone s) (hidle : Idle team s) (hl : leaving ∈ gone)
    (hj : ∀ j ∈ joining, j ∈ s.standIns team p leaving)
    (hn : joining = none → s.standIns team p leaving = []) :
    joining.isSome = decide (0 < (s.spares gone p).length) ∧
      ((s.handOver p.id leaving joining now).spares gone p).length =
        (s.spares gone p).length - 1 := by
  cases joining with
  | none =>
    have hspares : s.spares gone p = [] := spares_eq_nil hidle (hn rfl)
    rw [spares_handOver_eq_nil hl hspares, hspares]
    exact ⟨rfl, rfl⟩
  | some j =>
    have hj := hj j rfl
    have hlen := hs.length_spares_handOver ht hl hj (hgone.standIn_fresh hl hj)
    rw [if_neg fun h => hgone.not_mem_standIns h hj] at hlen
    refine ⟨(decide_eq_true ?_).symm, ?_⟩ <;> omega

/-- **Which places are filled.**  The repairs of a pull request fill the first places, as
    many as there are users spare. -/
theorem Repairs.filled (h : Repairs team gone now s t) (hs : s.Sound) (hgone : Gone gone s)
    (hidle : Idle team s) (hp : p ∈ s.pulls) : ∃ es, t.trail p.id = s.trail p.id ++ es ∧
      es.map (·.joining.isSome) =
        (List.range es.length).map (fun i => decide (i < (s.spares gone p).length)) ∧
      (t.spares gone p).length = (s.spares gone p).length - es.length := by
  induction h with
  | refl => exact ⟨[], by simp, rfl, rfl⟩
  | @tail t v hrun hr ih =>
    obtain ⟨es, htrail, hfilled, hspares⟩ := ih
    have hgone' : Gone gone t := hgone.of_users_eq (Repairs.users_eq hrun)
    have hsound : t.Sound := (Repairs.edits hrun hgone).sound hs
    have hsound' : v.Sound := (hr.edit hgone').sound hsound
    obtain ⟨hp', -, hl, -, hj, hn⟩ := hr
    rename_i p' leaving joining
    -- the repair is the next one of this pull request, or it is about another
    by_cases he : p.id = p'.id
    · obtain rfl := hsound.pull_eq ((Repairs.pulls_eq hrun).symm ▸ hp) hp' he
      obtain ⟨hsome, hlen⟩ := hsound.spares_repaired hsound' hgone'
        (hidle.of_users_eq (Repairs.users_eq hrun)) hl hj hn
      refine ⟨es ++ [⟨p.id, leaving, joining, now⟩], ?_, ?_, ?_⟩
      · rw [trail_handOver_self, htrail, List.append_assoc]
      · have hlast : joining.isSome = decide (es.length < (s.spares gone p).length) := by
          rw [hsome, hspares, decide_eq_decide]
          omega
        rw [List.map_append, hfilled, List.length_append, List.length_singleton, List.range_succ,
          List.map_append, List.map_singleton, List.map_singleton, hlast]
      · rw [hlen, hspares, List.length_append, List.length_singleton]
        omega
    · refine ⟨es, ?_, hfilled, ?_⟩
      · rw [trail_handOver_of_ne he, htrail]
      · rw [spares_handOver_of_ne he, hspares]

/-- Where nobody is gone there is nothing to repair. -/
theorem Repairs.eq_of_nil (h : Repairs team [] now s t) : t = s := by
  induction h with
  | refl => rfl
  | tail _ h =>
    obtain ⟨-, -, hl, -, -, -⟩ := h
    cases hl

/-- Reviews of users who are not gone stay. -/
theorem Repairs.kept {a : Assignment} (h : Repairs team gone now s t) (ha : a ∈ s.assignments)
    (hr : a.reviewer ∉ gone) : a ∈ t.assignments := by
  induction h with
  | refl => exact ha
  | tail _ h ih =>
    obtain ⟨-, -, hl, -, -, -⟩ := h
    exact mem_assignments_handOver_of_ne ih fun he => hr (he ▸ hl)

/-- Whoever has come is an active user of another team, and not the author. -/
theorem Repairs.added (h : Repairs team gone now s t) (hs : s.Sound) (hp : p ∈ s.pulls)
    (hr : r ∈ t.reviewers p.id) : r ∈ s.reviewers p.id ∨
      r ≠ p.author ∧ ∃ u ∈ s.users, u.id = r ∧ u.active ∧ u.team ≠ team := by
  induction h with
  | refl => exact .inl hr
  | tail hrun h ih =>
    obtain ⟨hp', -, -, -, hj, -⟩ := h
    rename_i p' leaving joining
    by_cases he : p.id = p'.id
    · obtain rfl := hs.pull_eq hp (Repairs.pulls_eq hrun ▸ hp') he
      rcases mem_reviewers_handOver.1 hr with hr | ⟨hr, -⟩
      · obtain ⟨⟨u, hu, ha, hteam, hid⟩, hne, -⟩ := mem_standIns.1 (hj r hr)
        exact .inr ⟨hne, u, Repairs.users_eq hrun ▸ hu, hid, ha, hteam⟩
      · exact ih hr
    · rw [reviewers_congr (seats_handOver_of_ne he)] at hr
      exact ih hr

/-- Whoever is said to join reviews the pull request, and no later repair changes that. -/
theorem Repairs.joined (h : Repairs team gone now s t) (hgone : Gone gone s) :
    ∃ es, t.history = s.history ++ es ∧
      ∀ e ∈ es, ∀ j ∈ e.joining, j ∈ t.reviewers e.pull ∧ j ∉ gone := by
  induction h with
  | refl => exact ⟨[], (List.append_nil _).symm, nofun⟩
  | @tail t v hrun h ih =>
    obtain ⟨es, hhistory, hjoined⟩ := ih
    obtain ⟨-, -, hl, -, hj, -⟩ := h
    rename_i p leaving joining
    refine ⟨es ++ [⟨p.id, leaving, joining, now⟩], ?_, fun e he j hje => ?_⟩
    · rw [handOver_history, hhistory, List.append_assoc]
    rcases List.mem_append.1 he with he | he
    · obtain ⟨hr, hout⟩ := hjoined e he j hje
      refine ⟨?_, hout⟩
      by_cases hpull : e.pull = p.id
      · rw [hpull] at hr ⊢
        exact mem_reviewers_handOver.2 (.inr ⟨hr, fun he => hout (he ▸ hl)⟩)
      · rwa [reviewers_congr (seats_handOver_of_ne hpull)]
    · obtain rfl := List.mem_singleton.1 he
      refine ⟨mem_reviewers_handOver.2 (.inl hje), fun hout => ?_⟩
      exact (hgone.of_users_eq (Repairs.users_eq hrun)).not_mem_standIns hout (hj j hje)

/-! ## A team as a whole -/

/-- The active users of other teams who have no part in a pull request. -/
def outsiders (s : Store) (team : String) (p : PullRequest) : Finset String :=
  ((s.users.filter fun u => u.active ∧ u.team ≠ team ∧ u.id ≠ p.author ∧
    u.id ∉ s.reviewers p.id).map User.id).toFinset

/-- The number of places of a pull request that are filled when the team is switched off. -/
def filled (s : Store) (team : String) (p : PullRequest) : Nat :=
  min (s.slots (s.activeMembers team) p).length (s.outsiders team p).card

/-- The number of places of a pull request that are dropped then. -/
def dropped (s : Store) (team : String) (p : PullRequest) : Nat :=
  (s.slots (s.activeMembers team) p).length - s.filled team p

/-- The pull requests that are not merged. -/
def openPulls (s : Store) : List PullRequest := s.pulls.filter (·.status = .opened)

/-- The second store is the first after a team has been switched off and its open reviews
    have been repaired, one by one as these entries say. -/
structure Cascaded (team : String) (now : Moment) (s t : Store) (events : List Handover) :
    Prop where
  frame : t =
    { s with
      users := s.users.map fun u =>
        if u.id ∈ s.activeMembers team then { u with active := false, updatedAt := now } else u
      assignments := t.assignments
      history := s.history ++ events }
  cleared : ∀ p ∈ s.openPulls, ∀ r ∈ t.reviewers p.id, r ∉ s.activeMembers team
  kept : ∀ a ∈ s.assignments, a.reviewer ∉ s.activeMembers team → a ∈ t.assignments
  added : ∀ p ∈ s.pulls, ∀ r ∈ t.reviewers p.id, r ∉ s.reviewers p.id →
    r ≠ p.author ∧ ∃ u ∈ s.users, u.id = r ∧ u.active ∧ u.team ≠ team
  untouched : ∀ p ∈ s.pulls, (p.status = .opened → s.slots (s.activeMembers team) p = []) →
    t.seats p.id = s.seats p.id ∧ t.trail p.id = s.trail p.id
  sorted : events.Pairwise fun d e => d.pull < e.pull ∨ d.pull = e.pull ∧ d.leaving < e.leaving
  slots : ∀ pull leaving, (∃ e ∈ events, e.pull = pull ∧ e.leaving = leaving) ↔
    ∃ p ∈ s.openPulls, p.id = pull ∧ leaving ∈ s.slots (s.activeMembers team) p
  dated : ∀ e ∈ events, e.changedAt = now
  joined : ∀ e ∈ events, ∀ j ∈ e.joining, j ∈ t.reviewers e.pull
  filled : ∀ p ∈ s.openPulls, (events.filter (·.pull = p.id)).map (·.joining.isSome) =
    List.replicate (s.filled team p) true ++ List.replicate (s.dropped team p) false
  idle : s.activeMembers team = [] → t = s

theorem mem_openPulls : p ∈ s.openPulls ↔ p ∈ s.pulls ∧ p.status = .opened := by
  simp [openPulls]

/-- Those who are spare once the team is switched off are the outsiders. -/
theorem Sound.length_spares_switchOff (hs : s.Sound) :
    ((s.switchOff team now).spares (s.activeMembers team) p).length =
      (s.outsiders team p).card := by
  have hoff : (s.switchOff team now).Sound := (Edit.switchOff : Edit now _ _).sound hs
  have hnodup : ((s.switchOff team now).spares (s.activeMembers team) p).Nodup :=
    hoff.nodup_candidates _
  rw [← List.toFinset_card_of_nodup hnodup]
  congr 1
  ext r
  simp only [outsiders, List.mem_toFinset, mem_spares, switchOff_users, List.mem_map,
    List.mem_filter, decide_eq_true_eq]
  constructor
  · rintro ⟨⟨-, ⟨u, hu, rfl⟩, ha, rfl⟩, hne, hrs, -⟩
    obtain ⟨ha, hteam⟩ := User.switchedOff_active.1 ha
    rw [User.switchedOff_id] at hne hrs ⊢
    exact ⟨u, ⟨hu, ha, hteam, hne, hrs⟩, rfl⟩
  · rintro ⟨u, ⟨hu, ha, hteam, hne, hrs⟩, rfl⟩
    refine ⟨⟨_, ⟨u, hu, rfl⟩, User.switchedOff_active.2 ⟨ha, hteam⟩, User.switchedOff_id⟩, hne,
      hrs, fun hmem => ?_⟩
    obtain ⟨v, hv, ⟨hvteam, -⟩, he⟩ := mem_activeMembers.1 hmem
    exact hteam (hs.user_eq hu hv he.symm ▸ hvteam)

/-- A team that is switched off changes the rows of its active members. -/
theorem Sound.switchOff_users_eq (hs : s.Sound) :
    (s.switchOff team now).users = s.users.map fun u =>
      if u.id ∈ s.activeMembers team then { u with active := false, updatedAt := now } else u := by
  refine List.map_congr_left fun u hu => ?_
  have hiff : u.id ∈ s.activeMembers team ↔ u.team = team ∧ u.active := by
    rw [mem_activeMembers]
    constructor
    · rintro ⟨v, hv, ht, he⟩
      exact hs.user_eq hu hv he.symm ▸ ht
    · exact fun h => ⟨u, hu, h, rfl⟩
  simp only [hiff]

theorem mem_placesOf {pull : String} : (pull, r) ∈ s.placesOf ids ↔
    ∃ p ∈ s.openPulls, p.id = pull ∧ r ∈ s.slots ids p := by
  simp only [placesOf, List.mem_flatMap, List.mem_map, Prod.mk.injEq, mem_openReviewedBy,
    mem_openPulls]
  constructor
  · rintro ⟨p, ⟨hp, ho, -⟩, r, hr, rfl, rfl⟩
    exact ⟨p, ⟨hp, ho⟩, rfl, hr⟩
  · rintro ⟨p, ⟨hp, ho⟩, rfl, hr⟩
    exact ⟨p, ⟨hp, ho, r, mem_slots.1 hr⟩, r, hr, rfl, rfl⟩

theorem Sound.pairwise_placesOf (hs : s.Sound) : (s.placesOf ids).Pairwise fun a b =>
    a.1 < b.1 ∨ a.1 = b.1 ∧ a.2 < b.2 := by
  have hpulls : (s.openReviewedBy ids).Pairwise (·.id < ·.id) :=
    pairwise_ascendingBy (hs.pulls.sublist (List.filter_sublist.map _))
  refine List.pairwise_flatMap.2 ⟨fun p _ => ?_, hpulls.imp fun hlt a ha b hb => ?_⟩
  · exact List.pairwise_map.2 (((hs.pairwise_reviewers p.id).filter _).imp fun h => .inr ⟨rfl, h⟩)
  · obtain ⟨_, -, rfl⟩ := List.mem_map.1 ha
    obtain ⟨_, -, rfl⟩ := List.mem_map.1 hb
    exact .inl hlt

/-- The places of one pull request among all. -/
theorem Sound.placesOf_pull (hs : s.Sound) (hp : p ∈ s.openPulls) :
    ((s.placesOf ids).filter (·.1 = p.id)).map Prod.snd = s.slots ids p := by
  refine eq_of_pairwise_lt id (List.pairwise_map.2 ?_) ((hs.pairwise_reviewers p.id).filter _)
    fun r => ?_
  · refine (hs.pairwise_placesOf.filter _).imp_of_mem fun {a b} ha hb hab => ?_
    have ha : a.1 = p.id := of_decide_eq_true (List.mem_filter.1 ha).2
    have hb : b.1 = p.id := of_decide_eq_true (List.mem_filter.1 hb).2
    rcases hab with hlt | ⟨-, hlt⟩
    · rw [ha, hb] at hlt
      exact absurd hlt (String.lt_irrefl _)
    · exact hlt
  · constructor
    · intro hr
      obtain ⟨⟨pull, r⟩, ha, rfl⟩ := List.mem_map.1 hr
      obtain ⟨ha, he⟩ := List.mem_filter.1 ha
      obtain ⟨q, hq, hid, hslot⟩ := mem_placesOf.1 ha
      obtain rfl := hs.pull_eq (mem_openPulls.1 hq).1 (mem_openPulls.1 hp).1
        (hid.trans (of_decide_eq_true he))
      exact hslot
    · intro hr
      exact List.mem_map.2 ⟨(p.id, r), List.mem_filter.2 ⟨mem_placesOf.2 ⟨p, hp, rfl, hr⟩,
        decide_eq_true rfl⟩, rfl⟩

/-- Up to some number, then beyond it. -/
theorem map_range_lt {n k : Nat} : (List.range n).map (fun i => decide (i < k)) =
    List.replicate (min n k) true ++ List.replicate (n - min n k) false := by
  refine List.ext_getElem (by simp) fun i h _ => ?_
  rw [List.length_map, List.length_range] at h
  simp only [List.getElem_map, List.getElem_range, List.getElem_append, List.length_replicate,
    List.getElem_replicate]
  split <;> simp <;> omega

/-- **The repairs of a team.**  What the loop of the desk does and what the history says of
    it come to this. -/
theorem Sound.cascaded {events : List Handover} (hs : s.Sound)
    (hc : Desk.Cascading team (s.activeMembers team) now (s.switchOff team now) [] t)
    (hhistory : t.history = s.history ++ events) (hdated : ∀ e ∈ events, e.changedAt = now)
    (hplaces : events.map Handover.slot = s.placesOf (s.activeMembers team)) :
    s.Cascaded team now t events := by
  have hoff : (s.switchOff team now).Sound := (Edit.switchOff : Edit now _ _).sound hs
  have hgone : Gone (s.activeMembers team) (s.switchOff team now) := hs.gone_switchOff
  have hsorted : events.Pairwise fun d e =>
      d.pull < e.pull ∨ d.pull = e.pull ∧ d.leaving < e.leaving :=
    List.pairwise_map.1 (hplaces ▸ hs.pairwise_placesOf)
  have hslots (pull leaving : String) : (∃ e ∈ events, e.pull = pull ∧ e.leaving = leaving) ↔
      ∃ p ∈ s.openPulls, p.id = pull ∧ leaving ∈ s.slots (s.activeMembers team) p := by
    rw [← mem_placesOf, ← hplaces, List.mem_map]
    simp only [Handover.slot, Prod.mk.injEq]
  constructor
  case frame =>
    have husers : t.users = _ := hc.run.users_eq.trans hs.switchOff_users_eq
    have hteams : t.teams = s.teams := hc.run.teams_eq
    have hpulls : t.pulls = s.pulls := hc.run.pulls_eq
    rw [← husers, ← hhistory, ← hteams, ← hpulls]
  case cleared =>
    intro p hp
    obtain ⟨hp, ho⟩ := mem_openPulls.1 hp
    exact hc.cleared p hp ho List.not_mem_nil
  case kept => exact fun a ha hr => hc.run.kept ha hr
  case added =>
    intro p hp r hr hnew
    obtain ⟨hne, u', hu', hid, ha, hteam⟩ := (hc.run.added hoff hp hr).resolve_left hnew
    obtain ⟨u, hu, rfl⟩ := List.mem_map.1 hu'
    exact ⟨hne, u, hu, User.switchedOff_id.symm.trans hid, User.switchedOff_active.1 ha⟩
  case untouched => exact fun p hp hno => hc.run.untouched hoff hp hno
  case sorted => exact hsorted
  case slots => exact hslots
  case dated => exact hdated
  case joined =>
    obtain ⟨es, hes, hjoined⟩ := hc.run.joined hgone
    obtain rfl : events = es := List.append_cancel_left (hhistory.symm.trans hes)
    exact fun e he j hj => (hjoined e he j hj).1
  case filled =>
    intro p hp
    obtain ⟨hmem, -⟩ := mem_openPulls.1 hp
    obtain ⟨es, htrail, hfilled, -⟩ := hc.run.filled hoff hgone idle_switchOff hmem
    have hes : events.filter (·.pull = p.id) = es := by
      have hall : t.trail p.id = s.trail p.id ++ events.filter (·.pull = p.id) := by
        rw [trail, hhistory, List.filter_append]
        rfl
      exact List.append_cancel_left (hall.symm.trans htrail)
    have hlength : es.length = (s.slots (s.activeMembers team) p).length := by
      rw [← hs.placesOf_pull hp, ← hplaces, List.filter_map, List.map_map, List.length_map, ← hes]
      rfl
    rw [hes, hfilled, hs.length_spares_switchOff, hlength, map_range_lt]
    rfl
  case idle =>
    intro hnone
    have hsame : s.switchOff team now = s := by
      have husers : (s.switchOff team now).users = s.users := by
        rw [hs.switchOff_users_eq, hnone]
        simp
      show { s with users := (s.switchOff team now).users } = s
      rw [husers]
    have hrun := hc.run
    rw [hnone, hsame] at hrun
    exact hrun.eq_of_nil

/-- Entries that are counted pull request by pull request are all counted. -/
theorem sum_countP_pull {f : Handover → Bool} {pulls : List String} {events : List Handover}
    (hnodup : pulls.Nodup) (hpulls : ∀ e ∈ events, e.pull ∈ pulls) :
    (pulls.map fun id => (events.filter (·.pull = id)).countP f).sum = events.countP f := by
  have hcomm (id : String) : (events.filter (·.pull = id)).countP f =
      ((events.filter f).filter (·.pull = id)).length := by
    rw [List.countP_eq_length_filter, List.filter_comm]
  have hall : (events.filter f).filter (·.pull ∈ pulls) = events.filter f :=
    List.filter_eq_self.2 fun e he => decide_eq_true (hpulls e (List.mem_of_mem_filter he))
  simp only [hcomm]
  rw [← length_filter_mem_eq_sum hnodup, hall, List.countP_eq_length_filter]

variable {events : List Handover}

theorem Cascaded.countP_eq {f : Handover → Bool} {n : PullRequest → Nat}
    (h : s.Cascaded team now t events) (hs : s.Sound)
    (hn : ∀ p ∈ s.openPulls, (events.filter (·.pull = p.id)).countP f = n p) :
    events.countP f = (s.openPulls.map n).sum := by
  have hnodup : (s.openPulls.map PullRequest.id).Nodup :=
    hs.pulls.sublist (List.filter_sublist.map _)
  have hpulls : ∀ e ∈ events, e.pull ∈ s.openPulls.map PullRequest.id := by
    intro e he
    obtain ⟨p, hp, hid, -⟩ := (h.slots e.pull e.leaving).1 ⟨e, he, rfl, rfl⟩
    exact List.mem_map.2 ⟨p, hp, hid⟩
  rw [← sum_countP_pull hnodup hpulls, List.map_map]
  exact congrArg List.sum (List.map_congr_left hn)

/-- As many entries tell of somebody who joins as places are filled. -/
theorem Cascaded.countP_isSome (h : s.Cascaded team now t events) (hs : s.Sound) :
    events.countP (·.joining.isSome) = (s.openPulls.map (s.filled team)).sum := by
  refine h.countP_eq hs fun p hp => ?_
  have hcount := congrArg (List.countP (fun b => b)) (h.filled p hp)
  rw [List.countP_map] at hcount
  simpa [Function.comp_def, List.countP_replicate] using hcount

theorem Cascaded.countP_isNone (h : s.Cascaded team now t events) (hs : s.Sound) :
    events.countP (·.joining.isNone) = (s.openPulls.map (s.dropped team)).sum := by
  refine h.countP_eq hs fun p hp => ?_
  have hcount := congrArg (List.countP (fun b => !b)) (h.filled p hp)
  rw [List.countP_map] at hcount
  simpa [Function.comp_def, List.countP_replicate] using hcount

end Store

/-! ## A step that switches off a team -/

namespace Session

variable {engine : Settings.Engine} {s : Session} {x : Step} {events : List Handover}

/-- The step switches off a team and repairs its open reviews as these entries say: it
    answers with the number of users switched off, of places filled and of places dropped,
    and has taken a draw for each place that is filled. -/
structure Cascades (s : Session) (x : Step) (team : String) (events : List Handover) : Prop where
  reply : (s.take x).1 = .ok (.answer (.deactivation
    ⟨(s.store.activeMembers team).length, (s.store.openPulls.map (s.store.filled team)).sum,
      (s.store.openPulls.map (s.store.dropped team)).sum⟩))
  draws : s.Draws x (s.store.openPulls.map (s.store.filled team)).sum
  store : s.store.Cascaded team (s.arranged x.cue).clock (s.next x).store events

/-- **What becomes of a request to switch off a team.**  In a reachable session, and while
    nothing goes wrong, the team is switched off and its open reviews are repaired.  What
    is answered, which places are filled and how many draws that takes does not depend on
    what is drawn. -/
theorem Reachable.team_deactivated (h : s.Reachable engine)
    (hx : x.Asks s (.deactivateTeam (.text team))) (hc : s.Calm x)
    (ht : ∃ t ∈ s.store.teams, t.name = team) : ∃ events, s.Cascades x team events := by
  have hs := h.sound
  have hfound : s.store.team? team ≠ none := by
    obtain ⟨t, ht, he⟩ := ht
    exact fun hn => Store.team?_eq_none_iff.1 hn t ht he
  have hends : (Desk.performAny (.deactivateTeam (.text team))).Ends
      (s.conditions x.site.settings.engine x.cue) (s.scene x.cue)
      (fun a t => ∃ d events, a = .deactivation d ∧
        d.deactivated = (s.store.activeMembers team).length ∧
        ({} : Deactivation).Counts d s.store t.store ∧
        (s.scene x.cue).Gains (s.arranged x.cue).clock t events ∧
        s.store.Cascaded team (s.arranged x.cue).clock t.store events)
      fun _ _ => False := by
    refine ends_map.2 (((Desk.deactivateTeam_ends hs).and
      (Desk.deactivateTeam_counts.and (Desk.deactivateTeam_gains hs))).mono ?_ ?_)
    · rintro d t ⟨⟨-, hcount, hcascading, -⟩, hcounts, events, hgains, hplaces⟩
      exact ⟨d, events, rfl, hcount, hcounts, hgains,
        hs.cascaded hcascading hgains.history hgains.dated hplaces⟩
    · rintro _ _ ⟨⟨-, hnone⟩, -⟩
      exact hfound (hnone hc.conditions)
  rcases take_of_desk hx (fun _ _ _ => False.elim) hends with
    ⟨_, hr, d, events, rfl, hcount, ⟨entries, hhistory, hre, hrm⟩, hgains, hcascaded⟩ | ⟨_, -, he⟩
  · have hentries : entries = events :=
      List.append_cancel_left (hhistory.symm.trans hgains.history)
    rw [hentries] at hre hrm
    have hfilled := hcascaded.countP_isSome hs
    have hdropped := hcascaded.countP_isNone hs
    refine ⟨events, ?_, draws_of_skip (hfilled ▸ hgains.generator), hcascaded⟩
    obtain ⟨deactivated, reassigned, removed⟩ := d
    simp only [Nat.zero_add] at hcount hre hrm
    rw [hr, hcount, hre, hrm, hfilled, hdropped]
  · exact he.elim

theorem team_deactivated_opening :
    let s := blank.along opening
    let x : Step := { action := .desk (.deactivateTeam (.text "core")) }
    (∃ events, s.Cascades x "core" events) ∧
      (s.store.openPulls.map (s.store.filled "core")).sum = 2 := by
  intro s x
  have hdraws : (blank.along opening).draws = [] := by decide +kernel
  have hteam : ∃ t ∈ (blank.along opening).store.teams, t.name = "core" := by decide +kernel
  exact ⟨reachable_opening.team_deactivated (.desk rfl) (calm_of_cue rfl hdraws) hteam,
    by decide +kernel⟩

end Session

end ReviewRota
