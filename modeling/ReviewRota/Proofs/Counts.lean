/-
  ReviewRota — counts.

  Each grouping counts the same reviews by another key and follows other rows to find
  it.  Since no row names anything that is not there, none of them loses a review, and
  since no id is taken twice, none counts a review more than once.

  * `Tallied`: the counts of a list add up to a total, with every key once and every
    count positive; `tallied_tally`: so do those of a tally;
  * `Window.Covers`: what a window asks of a pull request;
  * `Store.reviewsIn`: how many reviewers the pull requests in a window have, and
    `Store.length_assignmentsIn`: as many as there are reviews in it;
  * `Store.tallied_reviewers` and its like: each grouping of a linked store;
  * `Session.Reachable.conservation`: what the statistics of a reachable session add up
    to.
-/
import ReviewRota.Proofs.Integrity

namespace ReviewRota

variable {α β : Type}

/-! ## Tallies -/

/-- The counts add up to the total, every key stands once, and every count is
    positive. -/
structure Tallied (counts : List (α × Nat)) (total : Nat) : Prop where
  once : (counts.map Prod.fst).Nodup
  positive : ∀ c ∈ counts, 0 < c.2
  total : (counts.map Prod.snd).sum = total

/-- A tally counts every entry of a list once. -/
theorem tallied_tally [DecidableEq α] (keys : List α) : Tallied (tally keys) keys.length := by
  have hkeys : (tally keys).map Prod.fst = distinct keys := by
    simp [tally, Function.comp_def]
  have hcounts : (tally keys).map Prod.snd = (distinct keys).map keys.count := by
    simp [tally, Function.comp_def]
  have hdistinct : (distinct keys).Perm keys.dedup :=
    (List.perm_ext_iff_of_nodup (nodup_distinct keys) keys.nodup_dedup).2 fun a => by simp
  refine ⟨hkeys ▸ nodup_distinct keys, fun c hc => ?_, ?_⟩
  · obtain ⟨k, hk, rfl⟩ := List.mem_map.1 hc
    exact List.count_pos_iff.2 (mem_distinct.1 hk)
  · rw [hcounts, (hdistinct.map _).sum_eq]
    exact List.sum_map_count_dedup_eq_length keys

theorem Tallied.perm {counts counts' : List (α × Nat)} {total : Nat} (h : Tallied counts total)
    (hp : counts'.Perm counts) : Tallied counts' total :=
  ⟨(hp.map _).nodup_iff.2 h.once, fun c hc => h.positive c (hp.mem_iff.1 hc),
    (hp.map _).sum_eq.trans h.total⟩

theorem Tallied.of_eq {counts : List (α × Nat)} {m n : Nat} (h : Tallied counts m) (he : m = n) :
    Tallied counts n := he ▸ h

theorem length_tally [DecidableEq α] (keys : List α) :
    (tally keys).length = (distinct keys).length := List.length_map ..

/-- Entries that fall under some keys, counted key by key. -/
theorem countP_mem_eq_sum [DecidableEq β] {f : α → β} {l : List α} {keys : Finset β} :
    l.countP (f · ∈ keys) = ∑ k ∈ keys, (l.map f).count k := by
  induction l with
  | nil => simp
  | cons a l ih => simp [List.countP_cons, List.count_cons, Finset.sum_add_distrib, ih]

/-- The same for keys in a list. -/
theorem length_filter_mem_eq_sum [DecidableEq β] {f : α → β} {l : List α} {keys : List β}
    (h : keys.Nodup) :
    (l.filter (f · ∈ keys)).length = (keys.map fun k => (l.filter (f · = k)).length).sum := by
  have hcount (k : β) : (l.filter (f · = k)).length = (l.map f).count k := by
    rw [List.count, List.countP_map, List.countP_eq_length_filter]
    rfl
  simp only [hcount, ← List.sum_toFinset _ h, ← countP_mem_eq_sum, List.mem_toFinset,
    List.countP_eq_length_filter]

/-! ## Windows -/

/-- The pull request was created in the span of time, ends included, and has the
    status. -/
structure Window.Covers (w : Window) (p : PullRequest) : Prop where
  since : ∀ t ∈ w.since, t ≤ p.createdAt
  upTo : ∀ t ∈ w.upTo, p.createdAt ≤ t
  status : ∀ t ∈ w.status, p.status = t

theorem Window.admits_iff {w : Window} {p : PullRequest} : w.admits p ↔ w.Covers p := by
  have hcovers : w.Covers p ↔ (∀ t ∈ w.since, t ≤ p.createdAt) ∧ (∀ t ∈ w.upTo, p.createdAt ≤ t) ∧
      ∀ t ∈ w.status, p.status = t :=
    ⟨fun ⟨h₁, h₂, h₃⟩ => ⟨h₁, h₂, h₃⟩, fun ⟨h₁, h₂, h₃⟩ => ⟨h₁, h₂, h₃⟩⟩
  rw [hcovers]
  rcases w with ⟨_ | t, _ | t', _ | t''⟩ <;> simp [admits, and_assoc]

instance {w : Window} {p : PullRequest} : Decidable (w.Covers p) :=
  decidable_of_iff _ Window.admits_iff

namespace Store

variable {s : Store} {w : Window} {a : Assignment}

/-- The pull requests that a window covers. -/
def pullsIn (s : Store) (w : Window) : List PullRequest := s.pulls.filter fun p => w.Covers p

/-- How many reviewers the pull requests that a window covers have together. -/
def reviewsIn (s : Store) (w : Window) : Nat :=
  ((s.pullsIn w).map fun p => (s.reviewers p.id).length).sum

theorem pullsIn_eq : s.pullsIn w = s.pulls.filter w.admits :=
  List.filter_congr fun _ _ => Bool.eq_iff_iff.2 (by rw [decide_eq_true_eq, Window.admits_iff])

theorem Sound.pull?_any (h : s.Sound) {id : String} :
    (s.pull? id).any w.admits = decide (id ∈ (s.pullsIn w).map PullRequest.id) := by
  rw [Bool.eq_iff_iff, decide_eq_true_eq, pullsIn_eq, List.mem_map, Option.any_eq_true]
  constructor
  · rintro ⟨p, hp, ha⟩
    obtain ⟨hmem, he⟩ := mem_of_pull? hp
    exact ⟨p, List.mem_filter.2 ⟨hmem, ha⟩, he⟩
  · rintro ⟨p, hp, rfl⟩
    obtain ⟨hmem, ha⟩ := List.mem_filter.1 hp
    exact ⟨p, h.pull?_eq hmem, ha⟩

/-- **No review in a window is lost or counted twice.** -/
theorem Sound.length_assignmentsIn (h : s.Sound) : (s.assignmentsIn w).length = s.reviewsIn w := by
  have hids : ((s.pullsIn w).map PullRequest.id).Nodup :=
    h.pulls.sublist (List.filter_sublist.map _)
  have hseats : ∀ id, (s.reviewers id).length = (s.assignments.filter (·.pull = id)).length :=
    fun id => reviewers_perm.length_eq.trans (List.length_map ..)
  simp only [assignmentsIn, h.pull?_any]
  rw [length_filter_mem_eq_sum hids, List.map_map, reviewsIn]
  simp only [Function.comp_def, hseats]

/-- A window without bounds covers all that is stored. -/
theorem Sound.assignmentsIn_all (h : s.Sound) : s.assignmentsIn {} = s.assignments := by
  refine List.filter_eq_self.2 fun a ha => ?_
  obtain ⟨p, hp, he⟩ := h.seated a ha
  rw [← he, h.pull?_eq hp]
  rfl

theorem pullsIn_all : s.pullsIn {} = s.pulls :=
  List.filter_eq_self.2 fun _ _ => decide_eq_true ⟨nofun, nofun, nofun⟩

theorem mem_assignmentsIn (h : a ∈ s.assignmentsIn w) : a ∈ s.assignments :=
  List.mem_of_mem_filter h

/-! ## Groupings -/

theorem tallied_reviewers : Tallied (s.countsByReviewer w) (s.assignmentsIn w).length :=
  ((tallied_tally _).of_eq (List.length_map ..)).perm (sortBy_perm ..)

theorem tallied_pulls : Tallied s.countsByPull s.assignments.length :=
  ((tallied_tally _).of_eq (List.length_map ..)).perm (ascendingBy_perm ..)

theorem tallied_statuses : Tallied (s.countsByStatus w) (s.pullsIn w).length := by
  have hkeys : ((s.pulls.filter w.admits).map PullRequest.status).length =
      (s.pullsIn w).length := by
    rw [List.length_map, pullsIn_eq]
  exact ((tallied_tally _).of_eq hkeys).perm (ascendingBy_perm ..)

/-- Every reviewer has a team. -/
theorem Linked.teamOf?_isSome (h : s.Linked) (ha : a ∈ s.assignments) :
    (s.teamOf? a.reviewer).isSome := by
  obtain ⟨u, hu, he⟩ := h.manned a ha
  unfold teamOf?
  cases hfound : s.user? a.reviewer with
  | none => exact absurd he (user?_eq_none_iff.1 hfound u hu)
  | some v =>
    obtain ⟨hv, -⟩ := mem_of_user? hfound
    obtain ⟨t, ht, hname⟩ := h.placed v hv
    rw [Option.bind_some, ← hname, h.team?_eq ht]
    rfl

theorem Linked.tallied_teams (h : s.Linked) :
    Tallied (s.countsByTeam w) (s.assignmentsIn w).length := by
  have hkeys : ((s.assignmentsIn w).filterMap fun a => s.teamOf? a.reviewer).length =
      (s.assignmentsIn w).length :=
    List.filterMap_length_eq_length.2 fun a ha => h.teamOf?_isSome (mem_assignmentsIn ha)
  exact ((tallied_tally _).of_eq hkeys).perm (sortBy_perm ..)

/-- No more reviewers are listed than there are users. -/
theorem Linked.length_countsByReviewer_le (h : s.Linked) :
    (s.countsByReviewer w).length ≤ s.users.length := by
  rw [countsByReviewer, length_sortBy, length_tally, ← List.length_map (f := User.id)]
  refine (List.subperm_of_subset (nodup_distinct _) fun r hr => ?_).length_le
  obtain ⟨a, ha, rfl⟩ := List.mem_map.1 (mem_distinct.1 hr)
  obtain ⟨u, hu, he⟩ := h.manned a (mem_assignmentsIn ha)
  exact he ▸ List.mem_map_of_mem hu

end Store

/-! ## Sessions -/

/-- A limit that leaves room for `n` entries, or the usual one if that is zero, leaves
    room for them. -/
theorem limitOr_room {usual limit most : Int} {n : Nat} (hn : (n : Int) ≤ limit)
    (hm : limit ≤ most) (hu : limit = 0 → 0 < usual ∧ usual ≤ most) :
    ∃ l : Nat, limitOr usual limit = l ∧ n ≤ l ∧ (l : Int) ≤ most := by
  refine ⟨(limitOr usual limit).toNat, ?_⟩
  unfold limitOr
  split
  · omega
  · have hzero : limit = 0 := by omega
    have hfits := hu hzero
    omega

namespace Session

open Store

variable {engine : Settings.Engine} {s : Session}

/-- **All groupings add up.**  In every session that the desk can reach, the counts of the
    overview by user, by pull request and by team add up to the number of reviews, and
    those by status to the number of pull requests.  With a limit that leaves room for all
    users, the counts of a summary by reviewer and by team add up to the number of
    reviewers of the pull requests in the window, and those by status to the number of
    these.  Every key stands once, and every count is positive.  A limit of zero, which is
    enough where there are no users, stands for the usual one. -/
theorem Reachable.conservation (h : s.Reachable engine) :
    (∀ x, x.Asks s .overview → s.Spared x → ∃ o, (s.take x).1 = .ok (.answer (.overview o)) ∧
      Tallied o.byUser s.store.assignments.length ∧
      Tallied o.byPull s.store.assignments.length ∧
      Tallied o.byTeam s.store.assignments.length ∧
      Tallied o.byStatus s.store.pulls.length) ∧
    ∀ x f, x.Asks s (.summary f) → s.Spared x →
      (s.store.users.length : Int) ≤ f.limit → f.limit ≤ 9223372036854775807 →
      (f.limit = 0 → 0 < x.site.settings.engine.defaultLimit ∧
        x.site.settings.engine.defaultLimit ≤ 9223372036854775807) →
      ∃ v, (s.take x).1 = .ok (.answer (.summary v)) ∧
        Tallied v.reviewers (s.store.reviewsIn f.window) ∧
        Tallied v.teams (s.store.reviewsIn f.window) ∧
        Tallied v.statuses (s.store.pullsIn f.window).length := by
  have hs : s.store.Sound := h.sound
  have hl : s.store.Linked := h.linked
  refine ⟨fun x hx hspared => ?_, fun x f hx hspared hroom hfit husual => ?_⟩
  · have hall : (s.store.assignmentsIn {}).length = s.store.assignments.length :=
      congrArg List.length hs.assignmentsIn_all
    refine ⟨_, take_overview hx hspared, ?_, ?_, ?_, ?_⟩
    · exact (tallied_reviewers.of_eq hall).perm (sortBy_perm ..)
    · exact tallied_pulls.perm (sortBy_perm ..)
    · exact (hl.tallied_teams.of_eq hall).perm (sortBy_perm ..)
    · exact (tallied_statuses.of_eq (congrArg List.length pullsIn_all)).perm (ascendingBy_perm ..)
  · obtain ⟨limit, hlimit, hroom, hfit⟩ := limitOr_room hroom hfit husual
    obtain ⟨_, hr, rfl⟩ := take_answered hx hspared (Desk.summary_answer hlimit (by omega))
    have htake : (s.store.countsByReviewer f.window).take limit =
        s.store.countsByReviewer f.window :=
      List.take_of_length_le (hl.length_countsByReviewer_le.trans hroom)
    refine ⟨_, hr, ?_, hl.tallied_teams.of_eq hs.length_assignmentsIn, tallied_statuses⟩
    exact htake.symm ▸ tallied_reviewers.of_eq hs.length_assignmentsIn

/-- A pull request of another team is opened a second later. -/
def second : List Step :=
  [{ cue := { advance := .ofNat 1 }
     action := .service (.openPull (.text "p2") (.text "Other") (.text "eve")) }]

/-- What was created in the first moment, with room for seven users. -/
def early : SummaryFilter := ⟨{ upTo := some ⟨0⟩ }, 7⟩

theorem conservation_second :
    let s := (blank.along opening).along second
    (∃ o, (s.take { action := .desk .overview }).1 = .ok (.answer (.overview o)) ∧
      Tallied o.byUser 3 ∧ Tallied o.byPull 3 ∧ Tallied o.byTeam 3 ∧ Tallied o.byStatus 2) ∧
    ∃ v, (s.take { action := .service (.summary early) }).1 = .ok (.answer (.summary v)) ∧
      Tallied v.reviewers 2 ∧ Tallied v.teams 2 ∧ Tallied v.statuses 1 := by
  have hreach : ((blank.along opening).along second).Reachable {} :=
    reachable_opening.along (by decide +kernel)
  have hrows : ((blank.along opening).along second).store.assignments.length = 3 := by
    decide +kernel
  have hpulls : ((blank.along opening).along second).store.pulls.length = 2 := by decide +kernel
  have hreviews : ((blank.along opening).along second).store.reviewsIn early.window = 2 := by
    decide +kernel
  have hwithin : (((blank.along opening).along second).store.pullsIn early.window).length = 1 := by
    decide +kernel
  obtain ⟨hall, hsome⟩ := hreach.conservation
  rw [hrows, hpulls] at hall
  refine ⟨hall _ (.desk rfl) (spared_of_fault rfl), ?_⟩
  have h := hsome { action := .service (.summary early) } early
    (.service rfl (by decide +kernel) (by decide +kernel)) (spared_of_fault rfl)
    (by decide +kernel) (by decide) (by decide)
  rwa [hreviews, hwithin] at h

end Session

end ReviewRota
