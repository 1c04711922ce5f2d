/-
  ReviewRota — the work of a reviewer.

  What a user reviews is read in four ways: as a list of pull requests, as the first ones of
  that list, as counts by status, and as one count among those of all users.  Each way joins,
  groups and cuts the rows on its own, and from the rows of a sound store all of them find
  the same pull requests.

  * `PullRequest.Precedes`: the order of the list, which is strict;
  * `Store.workOf`: the reviews of a user, and `Sound.reviewedBy_ids`: the list has one pull
    request for each of them;
  * `Sound.mem_reviewedBy`, `Sound.pairwise_reviewedBy` and `Sound.length_reviewedBy`: what is
    in the list, in which order, and how much;
  * `Store.countOf_statusCounts`, `Store.totalOf_statusCounts` and `Sound.countIn_byUser`: what
    the counts say of it;
  * `Desk.reviewerReport_answer`: what the report is, read off the list;
  * `Session.Agree`: the ways lead to the same pull requests, and
    `Session.Reachable.views_agree`: these are the ones that the user reviews.
-/
import ReviewRota.Proofs.Rankings
import ReviewRota.Proofs.Views

namespace ReviewRota

variable {p q : PullRequest} {user : String} {t : Status}

/-! ## The order of the list -/

/-- The first pull request is newer, or equally new with a greater id. -/
def PullRequest.Precedes (p q : PullRequest) : Prop :=
  q.createdAt < p.createdAt ∨ p.createdAt = q.createdAt ∧ q.id < p.id

theorem Store.newerFirst_iff : newerFirst p q ↔
    q.createdAt < p.createdAt ∨ p.createdAt = q.createdAt ∧ q.id ≤ p.id := by
  simp [newerFirst]

theorem Moment.micros_inj {m n : Moment} : m.micros = n.micros ↔ m = n :=
  ⟨fun h => by cases m; cases n; exact congrArg Moment.mk h, congrArg Moment.micros⟩

/-- Pull requests with distinct ids are listed in a strict order. -/
theorem pairwise_newerFirst {pulls : List PullRequest} (h : (pulls.map PullRequest.id).Nodup) :
    (sortBy Store.newerFirst pulls).Pairwise PullRequest.Precedes := by
  let age (p : PullRequest) : OrderDual Int := .toDual p.createdAt.micros
  let name (p : PullRequest) : OrderDual String := .toDual p.id
  have hage : ∀ p q, age p = age q ↔ p.createdAt = q.createdAt := fun _ _ => Moment.micros_inj
  have hnames : (pulls.map name).Nodup := h
  refine (pairwise_sortBy_lex age name (fun p q => ?_) hnames).imp fun {p q} hpq => ?_
  · rw [Store.newerFirst_iff, hage]
    rfl
  · rw [hage] at hpq
    exact hpq

/-! ## The pull requests of a user -/

namespace Store

variable {s : Store}

/-- The reviews of a user. -/
def workOf (s : Store) (user : String) : List Assignment :=
  s.assignments.filter (·.reviewer = user)

/-- The list is found from the reviews of the user. -/
theorem reviewedBy_perm :
    (s.reviewedBy user).Perm ((s.workOf user).filterMap fun a => s.pull? a.pull) := by
  rw [workOf, List.filterMap_filter]
  simp only [decide_eq_true_eq]
  exact sortBy_perm _ _

/-- **Each review of the user is found once.** -/
theorem Sound.reviewedBy_ids (h : s.Sound) :
    ((s.reviewedBy user).map PullRequest.id).Perm ((s.workOf user).map Assignment.pull) := by
  refine (reviewedBy_perm.map _).trans (.of_eq ?_)
  rw [List.map_filterMap, ← List.filterMap_eq_map]
  refine List.filterMap_congr fun a ha => ?_
  obtain ⟨p, hp, he⟩ := h.seated a (List.mem_of_mem_filter ha)
  rw [← he, h.pull?_eq hp]
  exact congrArg some he

theorem Sound.nodup_workOf (h : s.Sound) : ((s.workOf user).map Assignment.pull).Nodup := by
  refine List.nodup_iff_count_le_one.2 fun id => ?_
  have hcount : ((s.workOf user).map Assignment.pull).count id =
      ((s.seats id).map Assignment.reviewer).count user := by
    rw [List.count, List.count, List.countP_map, List.countP_map, workOf, seats,
      List.countP_filter, List.countP_filter]
    refine List.countP_congr fun a _ => ?_
    simp [and_comm]
  rw [hcount, ← reviewers_perm.count_eq]
  exact List.nodup_iff_count_le_one.1 (h.once id) user

theorem Sound.mem_reviewedBy (h : s.Sound) :
    p ∈ s.reviewedBy user ↔ p ∈ s.pulls ∧ user ∈ s.reviewers p.id := by
  rw [reviewedBy_perm.mem_iff, List.mem_filterMap, mem_reviewers]
  constructor
  · rintro ⟨a, ha, hp⟩
    obtain ⟨hmem, hreviewer⟩ := List.mem_filter.1 ha
    obtain ⟨hpull, he⟩ := mem_of_pull? hp
    exact ⟨hpull, a, hmem, he.symm, of_decide_eq_true hreviewer⟩
  · rintro ⟨hp, a, ha, he, hreviewer⟩
    exact ⟨a, List.mem_filter.2 ⟨ha, decide_eq_true hreviewer⟩, he ▸ h.pull?_eq hp⟩

theorem Sound.nodup_reviewedBy (h : s.Sound) :
    ((s.reviewedBy user).map PullRequest.id).Nodup :=
  h.reviewedBy_ids.nodup_iff.2 h.nodup_workOf

theorem Sound.pairwise_reviewedBy (h : s.Sound) :
    (s.reviewedBy user).Pairwise PullRequest.Precedes :=
  pairwise_newerFirst (((sortBy_perm _ _).map _).nodup_iff.1 h.nodup_reviewedBy)

theorem Sound.length_reviewedBy (h : s.Sound) :
    (s.reviewedBy user).length = (s.workOf user).length := by
  simpa using h.reviewedBy_ids.length_eq

/-! ## What the counts say -/

/-- The statuses that are counted are those of the list. -/
theorem statusCountsOf_perm (s : Store) (user : String) :
    ∃ keys, (s.statusCountsOf user).Perm (tally keys) ∧
      keys.Perm ((s.reviewedBy user).map PullRequest.status) := by
  refine ⟨_, ascendingBy_perm _ _, ?_⟩
  refine .trans (.of_eq ?_) ((sortBy_perm _ _).map _).symm
  rw [List.map_filterMap]
  refine List.filterMap_congr fun a _ => ?_
  split <;> rfl

/-- As many pull requests of each status are counted as the list has. -/
theorem countOf_statusCounts :
    Desk.countOf t (s.statusCountsOf user) = (s.reviewedBy user).countP (·.status = t) := by
  obtain ⟨keys, hcounts, hkeys⟩ := s.statusCountsOf_perm user
  have hcount : countIn (s.statusCountsOf user) t = keys.count t := countIn_of_perm hcounts
  refine hcount.trans ?_
  rw [hkeys.count_eq, List.count, List.countP_map]
  rfl

theorem totalOf_statusCounts :
    Desk.totalOf (s.statusCountsOf user) = (s.reviewedBy user).length := by
  obtain ⟨keys, hcounts, hkeys⟩ := s.statusCountsOf_perm user
  have hsum : Desk.totalOf (s.statusCountsOf user) =
      ((s.statusCountsOf user).map Prod.snd).sum := List.foldr_map.symm
  rw [hsum, ((tallied_tally keys).perm hcounts).total, hkeys.length_eq, List.length_map]

/-- Among the counts of all users, that of one user is the length of the list. -/
theorem Sound.countIn_byUser (h : s.Sound) :
    countIn (Desk.byKey (s.countsByReviewer {})) user = (s.reviewedBy user).length := by
  have hperm : (Desk.byKey (s.countsByReviewer {})).Perm
      (tally ((s.assignmentsIn {}).map Assignment.reviewer)) :=
    (sortBy_perm _ _).trans (sortBy_perm _ _)
  rw [countIn_of_perm hperm, h.assignmentsIn_all, h.length_reviewedBy, workOf,
    ← List.countP_eq_length_filter, List.count, List.countP_map]
  rfl

end Store

/-! ## Sessions -/

/-- Every pull request is open or merged. -/
theorem length_eq_countP_status (pulls : List PullRequest) : pulls.length =
    pulls.countP (·.status = .opened) + pulls.countP (·.status = .merged) := by
  rw [List.length_eq_countP_add_countP (·.status = .opened)]
  refine congrArg _ (List.countP_congr fun p _ => ?_)
  cases p.status <;> simp

/-- The report of a user counts the whole list and shows its first pull requests. -/
theorem Desk.reviewerReport_answer {c : Conditions} {s : Scene} {u : User} {asked : Int}
    {limit : Nat} (hu : s.store.user? user = some u)
    (hl : limitOr c.settings.defaultLimit asked = limit) (hfit : limit ≤ 9223372036854775807) :
    (performAny (.reviewerReport (.text user) asked)).Ends c s
      (fun a _ => a = .reviewer ⟨user, (s.store.reviewedBy user).length,
        (s.store.reviewedBy user).countP (·.status = .opened),
        (s.store.reviewedBy user).countP (·.status = .merged),
        ((s.store.reviewedBy user).map PullRequest.brief).take limit⟩)
      fun e t => c.Struck e t := by
  refine Op.ends_map.2 (.unitOfWork (fun _ => .bind (.query (fun _ => ?_) fun _ _ h _ => h))
    fun _ _ h _ => h)
  rw [hu]
  refine .bind (.query (fun _ => .bind (Op.ends_read.2 (.bind (.bind (.query (fun _ => ?_)
    fun _ _ h _ => h))))) fun _ _ h _ => h)
  rw [hl, Op.limited_natCast hfit]
  refine Op.ends_pure.2 (Op.ends_pure.2 ?_)
  rw [Store.totalOf_statusCounts, Store.countOf_statusCounts, Store.countOf_statusCounts,
    List.map_take]

namespace Session

variable {engine : Settings.Engine} {s : Session} {u : User}

/-- Whoever asks what a user reviews is answered with these pull requests: all of them, the
    first ones with the counts by status, or their number. -/
structure Agree (s : Session) (user : String) (pulls : List PullRequest) : Prop where
  reviews : ∀ x, x.Asks s (.reviewsOf (.text user)) → s.Spared x →
    (s.take x).1 = .ok (.answer (.reviews (pulls.map PullRequest.brief)))
  report : ∀ x limit, x.Asks s (.reviewerReport (.text user) limit) → s.Spared x →
    x.site.settings.engine.UsualFits → limit ≤ 9223372036854775807 →
    (s.take x).1 = .ok (.answer (.reviewer ⟨user, pulls.length,
      pulls.countP (·.status = .opened), pulls.countP (·.status = .merged),
      (pulls.map PullRequest.brief).take (x.limit limit).toNat⟩))
  overview : ∀ x, x.Asks s .overview → s.Spared x →
    ∃ o, (s.take x).1 = .ok (.answer (.overview o)) ∧ countIn o.byUser user = pulls.length

theorem Reachable.agree (h : s.Reachable engine) (hu : u ∈ s.store.users) :
    s.Agree u.id (s.store.reviewedBy u.id) := by
  constructor
  · intro x hx hspared
    obtain ⟨_, hreply, rfl⟩ := take_answered hx hspared Desk.reviewsOf_answer
    exact hreply
  · intro x limit hx hspared husual hfit
    obtain ⟨n, hn⟩ := Step.exists_limit husual limit
    have hmost := Step.limit_fits husual hfit
    rw [hn] at hmost
    have hfound : s.store.user? u.id = some u := h.sound.user?_eq hu
    obtain ⟨_, hreply, rfl⟩ := take_answered hx hspared
      (Desk.reviewerReport_answer (s := s.scene x.cue) hfound hn (by omega))
    rw [hreply, hn, Int.toNat_natCast]
    rfl
  · intro x hx hspared
    exact ⟨_, take_overview hx hspared, h.sound.countIn_byUser⟩

/-- **Four ways to the work of a reviewer.**  In every session that the desk can reach, the
    pull requests that a user reviews are listed once each, the newest first and of equally
    new ones the greatest id; the report has as many of them as the limit allows, counts all of
    them, and counts those of each status; and the overview has the same count for the user. -/
theorem Reachable.views_agree (h : s.Reachable engine) (hu : u ∈ s.store.users) :
    ∃ pulls, (∀ p, p ∈ pulls ↔ p ∈ s.store.pulls ∧ u.id ∈ s.store.reviewers p.id) ∧
      (pulls.map PullRequest.id).Nodup ∧ pulls.Pairwise PullRequest.Precedes ∧
      pulls.length = pulls.countP (·.status = .opened) + pulls.countP (·.status = .merged) ∧
      s.Agree u.id pulls :=
  ⟨s.store.reviewedBy u.id, fun _ => h.sound.mem_reviewedBy, h.sound.nodup_reviewedBy,
    h.sound.pairwise_reviewedBy, length_eq_countP_status _, h.agree hu⟩

/-- The first of two pull requests is merged. -/
def merging : List Step := [{ action := .desk (.merge (.text "p1")) }]

/-- A user reviews a merged pull request and a newer one that is open: with a limit of one,
    only the newer one is listed, and both are counted. -/
theorem views_agree_merging :
    let s := blank.along (opening ++ busy ++ merging)
    let newer : PullBrief := ⟨"p2", "Other", "ann", .opened⟩
    let older : PullBrief := ⟨"p1", "Title", "ann", .merged⟩
    (s.take { action := .desk (.reviewsOf (.text "cyd")) }).1 =
      .ok (.answer (.reviews [newer, older])) ∧
    (s.take { action := .service (.reviewerReport (.text "cyd") 1) }).1 =
      .ok (.answer (.reviewer ⟨"cyd", 2, 1, 1, [newer]⟩)) ∧
    ∃ o, (s.take { action := .desk .overview }).1 = .ok (.answer (.overview o)) ∧
      countIn o.byUser "cyd" = 2 := by
  intro s newer older
  have hreach : (blank.along (opening ++ busy ++ merging)).Reachable {} :=
    ⟨blank, rfl, _, by decide +kernel, rfl⟩
  have hcyd : ∃ u ∈ (blank.along (opening ++ busy ++ merging)).store.users, u.id = "cyd" := by
    decide +kernel
  have htime : Service.hasTime {} = true := by decide +kernel
  have husual : ({} : Settings.Engine).UsualFits := ⟨by decide, by decide⟩
  have hreply : ((blank.along (opening ++ busy ++ merging)).take
      { action := .desk (.reviewsOf (.text "cyd")) }).1 =
        .ok (.answer (.reviews [newer, older])) :=
    answerOf?_eq_some (by decide +kernel)
  obtain ⟨u, hu, hid⟩ := hcyd
  obtain ⟨pulls, -, -, -, -, hagree⟩ := hreach.views_agree hu
  rw [hid] at hagree
  have hlisted : pulls.map PullRequest.brief = [newer, older] :=
    Answer.reviews.inj (Reply.answer.inj (Except.ok.inj
      ((hagree.reviews _ (.desk rfl) (spared_of_fault rfl)).symm.trans hreply)))
  have hlength : pulls.length = 2 := by simpa using congrArg List.length hlisted
  have hcount : ∀ t, pulls.countP (·.status = t) = [newer, older].countP (·.status = t) := by
    intro t
    rw [← hlisted, List.countP_map]
    rfl
  have hreport := hagree.report { action := .service (.reviewerReport (.text "cyd") 1) } 1
    (.service rfl (by decide +kernel) htime) (spared_of_fault rfl) husual (by decide)
  rw [hlength, hcount, hcount, hlisted] at hreport
  have hoverview := hagree.overview { action := .desk .overview } (.desk rfl) (spared_of_fault rfl)
  rw [hlength] at hoverview
  exact ⟨hreply, hreport, hoverview⟩

end Session

end ReviewRota
