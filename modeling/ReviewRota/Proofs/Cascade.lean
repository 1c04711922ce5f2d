/-
  ReviewRota — the repair of reviews.

  When a team is switched off, the open reviews of those who were switched off are
  repaired one after another.  Nobody who is gone can be picked, so each repair
  takes one of them out, and in the end none is left on an open pull request.

  * `Store.Gone`: these users are switched off;
  * `Store.standIns`: who may take over a review, and `Store.Repair` is one
    repair; it is an edit (`Repair.edit`);
  * `Conditions.Calm`: nothing goes wrong but what the desk itself refuses;
  * `repairSlot_ends`, `repairPull_ends`, `deactivateTeam_ends`: what the loops do,
    and that they end well where it is calm; `deactivateTeam_loop`: what a loop keeps
    holds of the whole.
-/
import ReviewRota.Desk.Deactivation
import ReviewRota.Proofs.Edits

namespace ReviewRota

variable {c : Conditions} {s t : Store} {p : PullRequest} {team leaving r : String}
  {gone : List String} {now : Moment}

namespace Store

/-- The users are switched off. -/
def Gone (ids : List String) (s : Store) : Prop := ∀ u ∈ s.users, u.id ∈ ids → u.active = false

/-- Who may take over the review of somebody who is gone: the pool of a repair. -/
def standIns (s : Store) (team : String) (p : PullRequest) (leaving : String) : List String :=
  (s.unassign p.id leaving).candidates
    { outside := team, exclude := p.author :: (s.unassign p.id leaving).reviewers p.id }

theorem mem_standIns : r ∈ s.standIns team p leaving ↔
    (∃ u ∈ s.users, u.active ∧ u.team ≠ team ∧ u.id = r) ∧ r ≠ p.author ∧
      (r ∈ s.reviewers p.id → r = leaving) := by
  simp only [standIns, mem_candidates, Pool.admits_iff, List.mem_cons,
    reviewers_unassign_perm.mem_iff, List.mem_filter, decide_eq_true_eq]
  constructor
  · rintro ⟨u, hu, ⟨ha, -, ht, hx⟩, rfl⟩
    refine ⟨⟨u, hu, ha, ht team rfl, rfl⟩, fun h => hx (.inl h), fun h => ?_⟩
    by_contra hne
    exact hx (.inr ⟨h, hne⟩)
  · rintro ⟨⟨u, hu, ha, ht, rfl⟩, hne, h⟩
    refine ⟨u, hu, ⟨ha, nofun, fun _ h => Option.some.inj h ▸ ht, ?_⟩, rfl⟩
    rintro (h' | ⟨h₁, h₂⟩)
    · exact hne h'
    · exact h₂ (h h₁)

/-- One review of somebody who is gone is handed to a stand-in, or dropped where
    there is none. -/
inductive Repair (team : String) (gone : List String) (now : Moment) (s : Store) : Store → Prop
  | mk {p : PullRequest} {leaving joining} : p ∈ s.pulls → p.status = .opened → leaving ∈ gone →
      leaving ∈ s.reviewers p.id → (∀ j ∈ joining, j ∈ s.standIns team p leaving) →
      (joining = none → s.standIns team p leaving = []) →
      Repair team gone now s (s.handOver p.id leaving joining now)

/-- Repairs in a row. -/
abbrev Repairs (team : String) (gone : List String) (now : Moment) : Store → Store → Prop :=
  Relation.ReflTransGen (Repair team gone now)

theorem Repairs.users_eq (h : Repairs team gone now s t) : t.users = s.users := by
  induction h with
  | refl => rfl
  | tail _ hr ih => cases hr; exact handOver_users.trans ih

theorem Repairs.pulls_eq (h : Repairs team gone now s t) : t.pulls = s.pulls := by
  induction h with
  | refl => rfl
  | tail _ hr ih => cases hr; exact handOver_pulls.trans ih

theorem Repairs.teams_eq (h : Repairs team gone now s t) : t.teams = s.teams := by
  induction h with
  | refl => rfl
  | tail _ hr ih => cases hr; exact handOver_teams.trans ih

theorem Gone.of_users_eq (h : Gone gone s) (hu : t.users = s.users) : Gone gone t := by
  rwa [Gone, hu]

/-- A stand-in is active, so nobody who is gone stands in. -/
theorem Gone.not_mem_standIns (h : Gone gone s) (hr : r ∈ gone) :
    r ∉ s.standIns team p leaving := by
  rintro hj
  obtain ⟨⟨u, hu, ha, -, rfl⟩, -⟩ := mem_standIns.1 hj
  rw [h u hu hr] at ha
  exact absurd ha Bool.false_ne_true

/-- Whoever stands in for somebody who is gone does not review the pull request yet. -/
theorem Gone.standIn_fresh (h : Gone gone s) (hl : leaving ∈ gone)
    (hr : r ∈ s.standIns team p leaving) : r ∉ s.reviewers p.id := by
  intro hm
  have he : r = leaving := (mem_standIns.1 hr).2.2 hm
  exact h.not_mem_standIns (he ▸ hl) hr

/-- A repair is one of the edits of the desk. -/
theorem Repair.edit (h : Repair team gone now s t) (hg : Gone gone s) : Edit now s t := by
  obtain ⟨hp, ho, hl, hr, hj, -⟩ := h
  refine .handOver hp ho hr fun j h => ?_
  obtain ⟨⟨u, hu, ha, -, he⟩, hne, -⟩ := mem_standIns.1 (hj j h)
  exact ⟨hne, hg.standIn_fresh hl (hj j h), u, hu, he, ha⟩

theorem Repairs.edits (h : Repairs team gone now s t) (hg : Gone gone s) : Edits now s t := by
  induction h with
  | refl => exact .refl
  | tail h hr ih => exact ih.tail (hr.edit (hg.of_users_eq (Repairs.users_eq h)))

/-- Those who were active in a team are gone once it is switched off. -/
theorem Sound.gone_switchOff (hs : s.Sound) :
    Gone (s.activeMembers team) (s.switchOff team now) := by
  intro u hu hid
  rw [switchOff_users] at hu
  obtain ⟨v, hv, rfl⟩ := List.mem_map.1 hu
  rw [User.switchedOff_id] at hid
  obtain ⟨w, hw, ⟨ht, -⟩, he⟩ := mem_activeMembers.1 hid
  obtain rfl := hs.user_eq hw hv he
  rw [← Bool.not_eq_true, User.switchedOff_active]
  exact fun h => h.2 ht

end Store

/-! ## Calm -/

/-- No call goes wrong and no draw fails. -/
def Conditions.Calm (c : Conditions) (s : Scene) : Prop :=
  c.fault = none ∧ Draw.NeverFail s.generator.draws

theorem Conditions.Struck.fault_ne {e : Failure} {t : Scene} (h : c.Struck e t) :
    c.fault ≠ none := by
  obtain ⟨f, hf, -⟩ := h
  rw [Option.mem_def.1 hf]
  exact nofun

theorem Conditions.Struck.not_calm {e : Failure} {s t : Scene} (h : c.Struck e t) : ¬ c.Calm s :=
  fun hc => h.fault_ne hc.1

/-- Where there is no fault no call goes wrong, whatever would be to be shown of it. -/
theorem Conditions.spared {lost : Failure → Scene → Prop} {store : Store} (hf : c.fault = none)
    (e : Failure) (t : Scene) (h : c.Struck e t) (_ : t.store = store) : lost e t :=
  (h.fault_ne hf).elim

theorem Conditions.Calm.spared {lost : Failure → Scene → Prop} {store : Store} {s : Scene}
    (hc : c.Calm s) (e : Failure) (t : Scene) (h : c.Struck e t) (ht : t.store = store) :
    lost e t :=
  Conditions.spared hc.1 e t h ht

namespace Desk

open Op Store

variable {s : Scene}

/-! ## One review -/

theorem repairSlot_ends : (repairSlot team p leaving).Ends c s
    (fun joining t => t.store = s.store.handOver p.id leaving joining c.now ∧
      (∀ j ∈ joining, j ∈ s.store.standIns team p leaving) ∧
      (joining = none → s.store.standIns team p leaving = []) ∧
      t.generator.draws <:+ s.generator.draws)
    fun _ _ => ¬ c.Calm s := by
  refine .bind (.bind (.query (fun _ => .bind ?_) fun _ _ h _ => h.not_calm))
  refine ends_modify.2 (ends_pure.2 ?_)
  refine .bind (.query (fun _ => .bind (.query (fun _ => ?_) fun _ _ h _ => h.not_calm))
    fun _ _ h _ => h.not_calm)
  refine .bind (.drawing (Drawing.choice_spec.mono (fun joining g h => ?_) fun _ _ h hc => h hc.2))
  obtain ⟨hpool, hsuf⟩ := h
  -- what is left of the work writes one row of the history and the log
  have hrest : ∀ t : Scene, t.generator = g →
      t.store.record p.id leaving joining c.now = s.store.handOver p.id leaving joining c.now →
      (do recordHandover p.id leaving joining
          report (.slotRepaired p.id leaving joining)
          pure joining).Ends c t
        (fun joining t => t.store = s.store.handOver p.id leaving joining c.now ∧
          (∀ j ∈ joining, j ∈ s.store.standIns team p leaving) ∧
          (joining = none → s.store.standIns team p leaving = []) ∧
          t.generator.draws <:+ s.generator.draws)
        fun _ _ => ¬ c.Calm s := by
    intro t hg ht
    refine .bind (.write (fun _ => .bind (.report fun _ => ?_)) fun _ _ h _ => h.not_calm)
    refine ⟨ht, fun j hj => ?_, fun hj => ?_, hg ▸ hsuf⟩
    · rw [Option.mem_def.1 hj] at hpool; exact hpool
    · rw [hj] at hpool; exact hpool
  cases joining with
  | none => exact hrest _ rfl rfl
  | some j =>
    refine .bind (.attempt (fun _ store h => ?_) (fun _ e h => ?_) fun _ _ h _ => h.not_calm)
    all_goals
      have hj : j ∉ (s.store.unassign p.id leaving).reviewers p.id := by
        obtain ⟨u, -, hu, rfl⟩ := mem_candidates.1 hpool
        exact fun h => (Pool.admits_iff.1 hu).2.2.2 (List.mem_cons_of_mem _ h)
      rw [assign_eq, if_neg hj] at h
    · cases h
      exact hrest _ rfl rfl
    · cases h

/-! ## One pull request -/

/-- While the reviews of one pull request are repaired, `rest` is still to come. -/
structure Mending (team : String) (gone : List String) (now : Moment) (p : PullRequest) (s : Store)
    (rest : List String) (t : Store) : Prop where
  run : Repairs team gone now s t
  left : ∀ r, r ∈ t.reviewers p.id ∧ r ∈ gone ↔ r ∈ rest
  nodup : rest.Nodup
  others : ∀ q, q ≠ p.id → t.reviewers q = s.reviewers q

theorem Mending.next {s t : Store} {rest : List String} {joining : Option String}
    (h : Mending team gone now p s (leaving :: rest) t) (hp : p ∈ s.pulls) (ho : p.status = .opened)
    (hg : Gone gone s) (hj : ∀ j ∈ joining, j ∈ t.standIns team p leaving)
    (hn : joining = none → t.standIns team p leaving = []) :
    Mending team gone now p s rest (t.handOver p.id leaving joining now) := by
  obtain ⟨hl, hrest⟩ := List.nodup_cons.1 h.nodup
  obtain ⟨hlr, hlg⟩ := (h.left leaving).2 List.mem_cons_self
  have hrepair : Repair team gone now t (t.handOver p.id leaving joining now) :=
    .mk (h.run.pulls_eq ▸ hp) ho hlg hlr hj hn
  refine ⟨h.run.tail hrepair, fun r => ?_, hrest, fun q hq => ?_⟩
  · rw [mem_reviewers_handOver]
    constructor
    · rintro ⟨hr | ⟨hr, hne⟩, hrg⟩
      · exact absurd (hj r hr) ((hg.of_users_eq h.run.users_eq).not_mem_standIns hrg)
      · exact (List.mem_cons.1 ((h.left r).1 ⟨hr, hrg⟩)).resolve_left hne
    · intro hr
      obtain ⟨h₁, h₂⟩ := (h.left r).2 (List.mem_cons_of_mem _ hr)
      exact ⟨.inr ⟨h₁, fun he => hl (he ▸ hr)⟩, h₂⟩
  · rw [reviewers_congr (seats_handOver_of_ne hq), h.others q hq]

theorem count_deactivated (d : Deactivation) (joining : Option String) :
    (d.count joining).deactivated = d.deactivated := by
  cases joining <;> rfl

/-- All reviews of one pull request that users who are gone hold are repaired. -/
theorem repairPull_ends {d : Deactivation} (hs : s.store.Sound) (hp : p ∈ s.store.pulls)
    (ho : p.status = .opened) (hg : Gone gone s.store) : (repairPull team gone d p).Ends c s
    (fun (d' : Deactivation) t => Mending team gone c.now p s.store [] t.store ∧
      d'.deactivated = d.deactivated ∧ t.generator.draws <:+ s.generator.draws)
    fun _ _ => ¬ c.Calm s := by
  refine .bind (.query (fun _ => ?_) fun _ _ h _ => h.not_calm)
  refine Ends.foldlM (I := fun rest (d' : Deactivation) t =>
    Mending team gone c.now p s.store rest t.store ∧ d'.deactivated = d.deactivated ∧
      t.generator.draws <:+ s.generator.draws)
    (fun leaving rest d' t h => ?_) ⟨⟨.refl, fun r => ?_, (hs.once _).filter _, fun _ _ => rfl⟩,
      rfl, List.suffix_rfl⟩
  · obtain ⟨hm, hd, hsuf⟩ := h
    refine .bind (repairSlot_ends.mono (fun joining u hu => ends_pure.2 ?_)
      fun _ _ h hc => h ⟨hc.1, hc.2.suffix hsuf⟩)
    obtain ⟨hu, hj, hn, hsuf'⟩ := hu
    exact ⟨hu ▸ hm.next hp ho hg hj hn, (count_deactivated _ _).trans hd, hsuf'.trans hsuf⟩
  · simp [List.mem_filter]

/-! ## A team -/

/-- While the pull requests of a cascade are repaired, `rest` is still to come. -/
structure Cascading (team : String) (gone : List String) (now : Moment) (s : Store)
    (rest : List PullRequest) (t : Store) : Prop where
  run : Repairs team gone now s t
  inside : ∀ p ∈ rest, p ∈ s.pulls ∧ p.status = .opened
  cleared : ∀ p ∈ s.pulls, p.status = .opened → p ∉ rest → ∀ r ∈ t.reviewers p.id, r ∉ gone

theorem Cascading.next {s t u : Store} {rest : List PullRequest}
    (h : Cascading team gone now s (p :: rest) t)
    (hm : Mending team gone now p t [] u) : Cascading team gone now s rest u := by
  refine ⟨h.run.trans hm.run, fun q hq => h.inside q (List.mem_cons_of_mem _ hq), ?_⟩
  intro q hq ho hrest r hr hrg
  by_cases he : q.id = p.id
  · rw [he] at hr
    exact List.not_mem_nil ((hm.left r).1 ⟨hr, hrg⟩)
  · rw [hm.others _ he] at hr
    refine h.cleared q hq ho (fun hmem => ?_) r hr hrg
    rcases List.mem_cons.1 hmem with rfl | hmem
    · exact he rfl
    · exact hrest hmem

/-- The open reviews of users who are gone are repaired, until none is left. -/
theorem repairAll_ends {d : Deactivation} (hs : s.store.Sound) (hg : Gone gone s.store) :
    ((s.store.openReviewedBy gone).foldlM (repairPull team gone) d).Ends c s
      (fun (d' : Deactivation) t => Cascading team gone c.now s.store [] t.store ∧
        d'.deactivated = d.deactivated ∧ t.generator.draws <:+ s.generator.draws)
      fun _ _ => ¬ c.Calm s := by
  refine Ends.foldlM (I := fun rest (d' : Deactivation) t =>
    Cascading team gone c.now s.store rest t.store ∧ d'.deactivated = d.deactivated ∧
      t.generator.draws <:+ s.generator.draws)
    (fun p rest d' t ht => ?_) ⟨⟨.refl, fun p hp => ?_, fun p hp ho hrest r hr hrg => ?_⟩, rfl,
      List.suffix_rfl⟩
  · obtain ⟨hc, hd, hsuf⟩ := ht
    obtain ⟨hp, ho⟩ := hc.inside p List.mem_cons_self
    have hsound : t.store.Sound := (hc.run.edits hg).sound hs
    have hpt : p ∈ t.store.pulls := hc.run.pulls_eq ▸ hp
    have hgt : Gone gone t.store := hg.of_users_eq hc.run.users_eq
    refine (repairPull_ends hsound hpt ho hgt).mono (fun d'' u hu => ?_)
      fun _ _ h hc => h ⟨hc.1, hc.2.suffix hsuf⟩
    obtain ⟨hm, hd', hsuf'⟩ := hu
    exact ⟨hc.next hm, hd'.trans hd, hsuf'.trans hsuf⟩
  · obtain ⟨hp, ho, -⟩ := mem_openReviewedBy.1 hp
    exact ⟨hp, ho⟩
  · exact hrest (mem_openReviewedBy.2 ⟨hp, ho, r, hr, hrg⟩)

/-- To switch off a team is to repair its open reviews, also where there are none. -/
theorem deactivateTeam_loop {P : Deactivation → Scene → Prop}
    (hlog : ∀ d t log, P d t → P d { t with log })
    (h : ∀ calls, (((s.store.switchOff team c.now).openReviewedBy
      (s.store.activeMembers team)).foldlM (repairPull team (s.store.activeMembers team))
        { deactivated := (s.store.activeMembers team).length }).Ends c
          { s with calls, store := s.store.switchOff team c.now } P fun _ _ => True) :
    (deactivateTeam team).Ends c s P fun _ _ => True := by
  refine .bind (.unitOfWork (fun _ => .bind (.query (fun _ => ?_) fun _ _ _ _ => trivial))
    fun _ _ _ _ => trivial)
  split
  next => trivial
  next found hfound =>
  obtain rfl : found.name = team := (mem_of_team? hfound).2
  refine .bind (.bind (.query (fun _ => ?_) fun _ _ _ _ => trivial))
  refine ends_bind.2 (ends_read.2 (ends_bind.2 (ends_modify.2 (ends_pure.2 ?_))))
  split
  next he =>
    have hnone : s.store.activeMembers found.name = [] := List.isEmpty_iff.1 he
    refine ends_pure.2 (.bind (.report fun log => hlog _ _ log ?_))
    rw [hnone, openReviewedBy_nil] at h
    exact h _
  next =>
  refine .bind (.query (fun _ => .bind ?_) fun _ _ _ _ => trivial)
  exact (h _).mono (fun d t ht => ends_pure.2 (.bind (.report fun log => hlog _ _ log ht)))
    fun _ _ h => h

/-- **A team switched off.**  Its active members are counted, their open reviews are
    repaired until none is left, and it fails in calm only if there is no such
    team. -/
theorem deactivateTeam_ends (hs : s.store.Sound) : (deactivateTeam team).Ends c s
    (fun d t => (s.store.team? team).isSome ∧
      d.deactivated = (s.store.activeMembers team).length ∧
      Cascading team (s.store.activeMembers team) c.now (s.store.switchOff team c.now) [] t.store ∧
      t.generator.draws <:+ s.generator.draws)
    fun _ t => t.store = s.store ∧ (c.Calm s → s.store.team? team = none) := by
  have hstruck : ∀ {e t}, c.Struck e t → c.Calm s → s.store.team? team = none :=
    fun h hc => absurd hc h.not_calm
  refine .bind (.unitOfWork (fun _ => .bind (.query (fun _ => ?_) fun _ _ h _ => ⟨rfl, hstruck h⟩))
    fun _ _ h ht => ⟨ht, hstruck h⟩)
  split
  next h => exact ends_refuse.2 ⟨rfl, fun _ => h⟩
  next found h =>
  obtain rfl : found.name = team := by simpa using List.find?_some h
  have hfound : (s.store.team? found.name).isSome := by rw [h]; rfl
  refine .bind (.bind (.query (fun _ => ?_) fun _ _ h _ => ⟨rfl, hstruck h⟩))
  refine ends_bind.2 (ends_read.2 (ends_bind.2 (ends_modify.2 (ends_pure.2 ?_))))
  split
  next he =>
    have hnone : s.store.activeMembers found.name = [] := List.isEmpty_iff.1 he
    refine ends_pure.2 (.bind (.report fun _ => ends_pure.2 ⟨hfound, ?_, ?_, List.suffix_rfl⟩))
    · rw [hnone]; rfl
    · refine ⟨.refl, nofun, fun _ _ _ _ r _ => ?_⟩
      rw [hnone]
      exact List.not_mem_nil
  next =>
    have hsound : (s.store.switchOff found.name c.now).Sound :=
      (Edit.switchOff : Edit c.now _ _).sound hs
    have hgone : Gone (s.store.activeMembers found.name) (s.store.switchOff found.name c.now) :=
      hs.gone_switchOff
    refine .bind (.query (fun _ => .bind ?_) fun _ _ h _ => ⟨rfl, hstruck h⟩)
    dsimp only
    refine Ends.mono (repairAll_ends (c := c)
      (s := { s with store := s.store.switchOff found.name c.now, calls := _ }) hsound hgone) ?_
      fun _ _ hn => ⟨rfl, fun hc => absurd hc hn⟩
    rintro d t ⟨hc, hd, hsuf⟩
    exact ends_pure.2 (.bind (.report fun _ => ends_pure.2 ⟨hfound, hd, hc, hsuf⟩))

end Desk

end ReviewRota
