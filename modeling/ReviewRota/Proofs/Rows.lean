/-
  ReviewRota — rows of the store.

  What the tables say about one pull request, what the reads of the store find in
  them, and how a write that changes reviewers changes that.

  * `pairwise_sortBy_lt` and `pairwise_sortBy_lex`: sorted entries are in strict order;
    `pairwise_ascendingBy` and `eq_of_pairwise_lt`: rows that are listed by their keys;
  * `Store.seats` and `Store.trail`: the reviews of a pull request and what was
    recorded about it, in the order of the rows;
  * `User.switchedOff`: a user after a team was switched off;
  * `Store.Sound`: ids are taken once, nobody reviews a pull request twice, and no
    review and no entry of the history names a pull request that is not there;
  * `Store.seat`, `Store.handOver` and `Store.opened`: the store with a reviewer
    more, with a reviewer replaced or dropped, with a new pull request;
  * `reviewers_handOver_perm` and its like: the reviewers after such a change;
    `pull?_setStatus_self` and its like: the row of a pull request after one.
-/
import ReviewRota.Proofs.Picks
import ReviewRota.Store.Listing

namespace ReviewRota

variable {s : Store} {p q : PullRequest} {u v : User} {id leaving r : String} {now : Moment}

/-- A row with a new key keeps the keys distinct. -/
theorem nodup_map_concat {α β : Type} {f : α → β} {l : List α} {a : α} (h : (l.map f).Nodup)
    (hn : ∀ b ∈ l, f b ≠ f a) : ((l ++ [a]).map f).Nodup := by
  simp only [List.map_append, List.map_cons, List.map_nil]
  refine List.nodup_append.2 ⟨h, List.nodup_singleton _, fun k hk k' hk' he => ?_⟩
  obtain ⟨b, hb, rfl⟩ := List.mem_map.1 hk
  exact hn b hb (he.trans (List.mem_singleton.1 hk'))

/-! ## Look-ups and pools -/

theorem Status.eq_opened {status : Status} (h : status ≠ .merged) : status = .opened := by
  cases status with
  | opened => rfl
  | merged => exact absurd rfl h

theorem Pool.admits_iff {pool : Pool} : pool.admits u ↔ u.active ∧ (∀ t ∈ pool.within, u.team = t) ∧
    (∀ t ∈ pool.outside, u.team ≠ t) ∧ u.id ∉ pool.exclude := by
  rcases pool with ⟨_ | t, _ | t', ids⟩ <;> simp [admits, and_assoc]

/-- Entries that are sorted by a rank are in strict order, if no rank is taken twice. -/
theorem pairwise_sortBy_lt {α ω : Type} [LinearOrder ω] {before : α → α → Bool} {rank : α → ω}
    {l : List α} (hbefore : ∀ a b, before a b ↔ rank a ≤ rank b) (h : (l.map rank).Nodup) :
    (sortBy before l).Pairwise (rank · < rank ·) := by
  have hle : (sortBy before l).Pairwise (rank · ≤ rank ·) := by
    refine (pairwise_sortBy (fun a b => ?_) (fun a b c hab hbc => ?_) l).imp (hbefore _ _).1
    · rw [Bool.or_eq_true, hbefore, hbefore]
      exact le_total _ _
    · rw [hbefore] at hab hbc ⊢
      exact hab.trans hbc
  have hne : (sortBy before l).Pairwise (rank · ≠ rank ·) :=
    List.pairwise_map.1 (((sortBy_perm before l).map rank).nodup_iff.2 h)
  exact (hle.and hne).imp fun hab => lt_of_le_of_ne hab.1 hab.2

/-- The same for entries that are sorted by a weight, and by their names where that is equal. -/
theorem pairwise_sortBy_lex {α κ ν : Type} [LinearOrder κ] [LinearOrder ν]
    {before : α → α → Bool} {l : List α} (weight : α → κ) (name : α → ν)
    (hbefore : ∀ a b, before a b ↔ weight a < weight b ∨ weight a = weight b ∧ name a ≤ name b)
    (h : (l.map name).Nodup) : (sortBy before l).Pairwise fun a b =>
      weight a < weight b ∨ weight a = weight b ∧ name a < name b := by
  have hranks : (l.map fun a => toLex (weight a, name a)).Nodup :=
    List.pairwise_map.2 ((List.pairwise_map.1 h).imp fun hne he =>
      hne (congrArg (fun r => (ofLex r).2) he))
  refine (pairwise_sortBy_lt (fun a b => ?_) hranks).imp Prod.Lex.toLex_lt_toLex.1
  rw [hbefore, Prod.Lex.toLex_le_toLex]

/-- Rows with distinct keys are listed in the order of these. -/
theorem pairwise_ascendingBy {α : Type} {key : α → String} {rows : List α}
    (h : (rows.map key).Nodup) : (ascendingBy key rows).Pairwise (key · < key ·) :=
  pairwise_sortBy_lt (fun _ _ => decide_eq_true_iff) h

theorem pairwise_ascending {ss : List String} (h : ss.Nodup) :
    (ascending ss).Pairwise (· < ·) :=
  pairwise_ascendingBy (ss.map_id.symm ▸ h)

/-- Rows that are listed in the order of their keys are known from which rows they are. -/
theorem eq_of_pairwise_lt {α : Type} (key : α → String) {l m : List α}
    (hl : l.Pairwise (key · < key ·)) (hm : m.Pairwise (key · < key ·))
    (h : ∀ a, a ∈ l ↔ a ∈ m) : l = m := by
  have hne (a b : α) (hlt : key a < key b) : a ≠ b := by
    rintro rfl
    exact String.lt_irrefl _ hlt
  exact ((List.perm_ext_iff_of_nodup (hl.imp (hne _ _)) (hm.imp (hne _ _))).2 h).eq_of_pairwise
    (fun _ _ _ _ hab hba => absurd (String.lt_trans hab hba) (String.lt_irrefl _)) hl hm

/-! ## A team switched off -/

/-- A user after a team was switched off. -/
def User.switchedOff (team : String) (now : Moment) (u : User) : User :=
  if u.team = team ∧ u.active then { u with active := false, updatedAt := now } else u

variable {team : String}

@[simp] theorem User.switchedOff_id : (u.switchedOff team now).id = u.id := by
  unfold switchedOff; split <;> rfl

@[simp] theorem User.switchedOff_team : (u.switchedOff team now).team = u.team := by
  unfold switchedOff; split <;> rfl

theorem User.switchedOff_active :
    (u.switchedOff team now).active = true ↔ u.active = true ∧ u.team ≠ team := by
  unfold switchedOff
  split
  next h => simp [h.1]
  next h => exact ⟨fun ha => ⟨ha, fun ht => h ⟨ht, ha⟩⟩, fun ha => ha.1⟩

namespace Store

theorem switchOff_users :
    (s.switchOff team now).users = s.users.map (User.switchedOff team now) := rfl

theorem switchOff_user_ids :
    (s.switchOff team now).users.map User.id = s.users.map User.id := by
  rw [switchOff_users, List.map_map]
  exact List.map_congr_left fun u _ => User.switchedOff_id

/-! ## What is kept of a pull request -/

/-- The reviews of a pull request. -/
def seats (s : Store) (pull : String) : List Assignment := s.assignments.filter (·.pull = pull)

/-- What was recorded about a pull request, oldest first. -/
def trail (s : Store) (pull : String) : List Handover := s.history.filter (·.pull = pull)

theorem mem_of_user? (h : s.user? id = some u) : u ∈ s.users ∧ u.id = id :=
  ⟨List.mem_of_find?_eq_some h, by simpa using List.find?_some h⟩

theorem user?_eq_none_iff : s.user? id = none ↔ ∀ u ∈ s.users, u.id ≠ id := by
  simp [user?, List.find?_eq_none]

theorem mem_of_pull? (h : s.pull? id = some p) : p ∈ s.pulls ∧ p.id = id :=
  ⟨List.mem_of_find?_eq_some h, by simpa using List.find?_some h⟩

theorem pull?_eq_none_iff : s.pull? id = none ↔ ∀ p ∈ s.pulls, p.id ≠ id := by
  simp [pull?, List.find?_eq_none]

theorem mem_of_team? {t : Team} (h : s.team? id = some t) : t ∈ s.teams ∧ t.name = id :=
  ⟨List.mem_of_find?_eq_some h, by simpa using List.find?_some h⟩

theorem team?_eq_none_iff : s.team? id = none ↔ ∀ t ∈ s.teams, t.name ≠ id := by
  simp [team?, List.find?_eq_none]

theorem mem_members : u ∈ s.members id ↔ u ∈ s.users ∧ u.team = id := by
  simp [members, List.mem_filter]

theorem mem_candidates {pool : Pool} :
    r ∈ s.candidates pool ↔ ∃ u ∈ s.users, pool.admits u ∧ u.id = r := by
  simp [candidates, List.mem_map, List.mem_filter, and_assoc]

theorem mem_activeMembers {team : String} :
    r ∈ s.activeMembers team ↔ ∃ u ∈ s.users, (u.team = team ∧ u.active) ∧ u.id = r := by
  simp [activeMembers, List.mem_map, List.mem_filter, and_assoc]

theorem reviewers_perm : (s.reviewers id).Perm ((s.seats id).map Assignment.reviewer) :=
  ascending_perm _

theorem mem_reviewers : r ∈ s.reviewers id ↔ ∃ a ∈ s.assignments, a.pull = id ∧ a.reviewer = r := by
  simp [reviewers, List.mem_map, List.mem_filter, and_assoc]

theorem mem_openReviewedBy {ids : List String} : p ∈ s.openReviewedBy ids ↔
    p ∈ s.pulls ∧ p.status = .opened ∧ ∃ r ∈ s.reviewers p.id, r ∈ ids := by
  simp only [openReviewedBy, mem_ascendingBy, List.mem_filter, decide_eq_true_eq, List.any_eq_true,
    mem_reviewers]
  refine and_congr_right fun _ => and_congr_right fun _ => ⟨?_, ?_⟩
  · rintro ⟨a, ha, hp, hr⟩; exact ⟨_, ⟨a, ha, hp, rfl⟩, hr⟩
  · rintro ⟨_, ⟨a, ha, hp, rfl⟩, hr⟩; exact ⟨a, ha, hp, hr⟩

theorem openReviewedBy_nil : s.openReviewedBy [] = [] := by
  simp [openReviewedBy, ascendingBy, sortBy]

/-! ## Sound stores -/

/-- No id is taken twice, nobody reviews a pull request twice, and all that is kept
    of reviews is about pull requests that are there. -/
structure Sound (s : Store) : Prop where
  users : (s.users.map User.id).Nodup
  pulls : (s.pulls.map PullRequest.id).Nodup
  once : ∀ pull, (s.reviewers pull).Nodup
  seated : ∀ a ∈ s.assignments, ∃ p ∈ s.pulls, p.id = a.pull
  recorded : ∀ h ∈ s.history, ∃ p ∈ s.pulls, p.id = h.pull

namespace Sound

theorem empty : Sound {} := ⟨.nil, .nil, fun _ => .nil, nofun, nofun⟩

theorem user_eq (h : s.Sound) (hu : u ∈ s.users) (hv : v ∈ s.users) (he : u.id = v.id) : u = v :=
  List.inj_on_of_nodup_map h.users hu hv he

theorem pull_eq (h : s.Sound) (hp : p ∈ s.pulls) (hq : q ∈ s.pulls) (he : p.id = q.id) : p = q :=
  List.inj_on_of_nodup_map h.pulls hp hq he

theorem pull?_eq (h : s.Sound) (hp : p ∈ s.pulls) : s.pull? p.id = some p := by
  cases hq : s.pull? p.id with
  | none => exact absurd rfl (pull?_eq_none_iff.1 hq p hp)
  | some q => rw [h.pull_eq (mem_of_pull? hq).1 hp (mem_of_pull? hq).2]

theorem user?_eq (h : s.Sound) (hu : u ∈ s.users) : s.user? u.id = some u := by
  cases hv : s.user? u.id with
  | none => exact absurd rfl (user?_eq_none_iff.1 hv u hu)
  | some v => rw [h.user_eq (mem_of_user? hv).1 hu (mem_of_user? hv).2]

theorem mem_users_iff (h : s.Sound) : u ∈ s.users ↔ s.user? u.id = some u :=
  ⟨h.user?_eq, fun hu => (mem_of_user? hu).1⟩

theorem pairwise_members (h : s.Sound) (team : String) :
    (s.members team).Pairwise (·.id < ·.id) :=
  pairwise_ascendingBy (h.users.sublist (List.filter_sublist.map _))

theorem filter_pulls (h : s.Sound) (hp : p ∈ s.pulls) : s.pulls.filter (·.id = p.id) = [p] := by
  have hnodup : (s.pulls.filter (·.id = p.id)).Nodup := (h.pulls.of_map _).filter _
  refine List.perm_singleton.1 ((List.perm_ext_iff_of_nodup hnodup (List.nodup_singleton p)).2 ?_)
  intro q
  rw [List.mem_filter, List.mem_singleton, decide_eq_true_eq]
  constructor
  · rintro ⟨hq, he⟩
    exact h.pull_eq hq hp he
  · rintro rfl
    exact ⟨hp, rfl⟩

theorem nodup_candidates (h : s.Sound) (pool : Pool) : (s.candidates pool).Nodup :=
  (ascending_perm _).nodup_iff.2 (h.users.sublist (List.filter_sublist.map _))

theorem pairwise_reviewers (h : s.Sound) (pull : String) :
    (s.reviewers pull).Pairwise (· < ·) :=
  pairwise_ascending ((ascending_perm _).nodup_iff.1 (h.once pull))

theorem seats_eq_nil (h : s.Sound) (hid : s.pull? id = none) : s.seats id = [] := by
  refine List.filter_eq_nil_iff.2 fun a ha he => ?_
  obtain ⟨p, hp, hpa⟩ := h.seated a ha
  exact pull?_eq_none_iff.1 hid p hp (hpa.trans (by simpa using he))

theorem trail_eq_nil (h : s.Sound) (hid : s.pull? id = none) : s.trail id = [] := by
  refine List.filter_eq_nil_iff.2 fun a ha he => ?_
  obtain ⟨p, hp, hpa⟩ := h.recorded a ha
  exact pull?_eq_none_iff.1 hid p hp (hpa.trans (by simpa using he))

end Sound

/-! ## One reviewer more -/

/-- The store with one more review. -/
def seat (s : Store) (pull reviewer : String) (now : Moment) : Store :=
  { s with assignments := s.assignments ++ [⟨pull, reviewer, now⟩] }

theorem assign_eq : s.assign id r now =
    if r ∈ s.reviewers id then
      .error (.store (.duplicateKey "pr_reviewers.pr_id, pr_reviewers.reviewer_id"))
    else .ok (s.seat id r now) := by
  simp only [assign, List.any_eq_true, decide_eq_true_eq, mem_reviewers]; rfl

theorem seats_seat_self : (s.seat id r now).seats id = s.seats id ++ [⟨id, r, now⟩] := by
  simp [seats, seat]

theorem seats_seat_of_ne {pull : String} (h : id ≠ pull) :
    (s.seat pull r now).seats id = s.seats id := by
  simp [seats, seat, Ne.symm h]

theorem reviewers_seat_perm : ((s.seat id r now).reviewers id).Perm (r :: s.reviewers id) := by
  refine reviewers_perm.trans ?_
  rw [seats_seat_self, List.map_append]
  exact List.perm_append_comm.trans (reviewers_perm.symm.cons r)

theorem reviewers_congr {t : Store} (h : t.seats id = s.seats id) :
    t.reviewers id = s.reviewers id :=
  congrArg (fun l : List Assignment => ascending (l.map Assignment.reviewer)) h

/-! ## One reviewer less -/

theorem seats_unassign_self :
    (s.unassign id leaving).seats id = (s.seats id).filter (·.reviewer ≠ leaving) := by
  simp only [seats, unassign, List.filter_filter]
  refine List.filter_congr fun a _ => ?_
  by_cases h : a.pull = id <;> simp [h]

theorem seats_unassign_of_ne {pull : String} (h : id ≠ pull) :
    (s.unassign pull leaving).seats id = s.seats id := by
  simp only [seats, unassign, List.filter_filter]
  refine List.filter_congr fun a _ => ?_
  by_cases h' : a.pull = id <;> simp [h', h]

theorem reviewers_unassign_perm :
    ((s.unassign id leaving).reviewers id).Perm ((s.reviewers id).filter (· ≠ leaving)) := by
  refine reviewers_perm.trans ?_
  rw [seats_unassign_self, ← Function.comp_def (fun r => decide (r ≠ leaving)) Assignment.reviewer,
    ← List.filter_map]
  exact reviewers_perm.symm.filter _

/-! ## One reviewer after another -/

/-- The store after a reviewer has left a pull request and somebody has taken the
    place, if anyone. -/
def handOver (s : Store) (pull leaving : String) (joining : Option String) (now : Moment) : Store :=
  (match joining with
    | some j => (s.unassign pull leaving).seat pull j now
    | none => s.unassign pull leaving).record pull leaving joining now

variable {joining : Option String}

@[simp] theorem handOver_teams : (s.handOver id leaving joining now).teams = s.teams := by
  cases joining <;> rfl

@[simp] theorem handOver_users : (s.handOver id leaving joining now).users = s.users := by
  cases joining <;> rfl

@[simp] theorem handOver_pulls : (s.handOver id leaving joining now).pulls = s.pulls := by
  cases joining <;> rfl

theorem handOver_history : (s.handOver id leaving joining now).history =
    s.history ++ [⟨id, leaving, joining, now⟩] := by
  cases joining <;> rfl

theorem seats_handOver_of_ne {pull : String} (h : id ≠ pull) :
    (s.handOver pull leaving joining now).seats id = s.seats id := by
  cases joining with
  | none => exact seats_unassign_of_ne h
  | some j => exact (seats_seat_of_ne h).trans (seats_unassign_of_ne h)

/-- Whoever leaves goes, whoever joins comes, and the others stay. -/
theorem reviewers_handOver_perm : ((s.handOver id leaving joining now).reviewers id).Perm
    (joining.toList ++ (s.reviewers id).filter (· ≠ leaving)) := by
  cases joining with
  | none => exact reviewers_unassign_perm
  | some j => exact reviewers_seat_perm.trans (reviewers_unassign_perm.cons j)

theorem mem_reviewers_handOver : r ∈ (s.handOver id leaving joining now).reviewers id ↔
    joining = some r ∨ r ∈ s.reviewers id ∧ r ≠ leaving := by
  simp [reviewers_handOver_perm.mem_iff, List.mem_filter]

/-- Nobody but the one who joins comes to any pull request. -/
theorem mem_reviewers_of_handOver {pull : String}
    (h : r ∈ (s.handOver pull leaving joining now).reviewers id) :
    joining = some r ∨ r ∈ s.reviewers id := by
  by_cases he : id = pull
  · subst he
    exact (mem_reviewers_handOver.1 h).imp_right And.left
  · rw [reviewers_congr (seats_handOver_of_ne he)] at h
    exact .inr h

/-- The reviews of everybody but the one who leaves stay. -/
theorem mem_assignments_handOver_of_ne {a : Assignment} {pull : String} (ha : a ∈ s.assignments)
    (hne : a.reviewer ≠ leaving) : a ∈ (s.handOver pull leaving joining now).assignments := by
  have hkept : a ∈ (s.unassign pull leaving).assignments :=
    List.mem_filter.2 ⟨ha, decide_eq_true fun h => hne h.2⟩
  cases joining with
  | none => exact hkept
  | some j => exact List.mem_append_left _ hkept

theorem mem_assignments_handOver {a : Assignment}
    (h : a ∈ (s.handOver id leaving joining now).assignments) :
    a.pull = id ∨ a ∈ s.assignments := by
  cases joining with
  | none => exact .inr (List.mem_of_mem_filter h)
  | some j =>
    rcases List.mem_append.1 h with h | h
    · exact .inr (List.mem_of_mem_filter h)
    · rw [List.mem_singleton.1 h]; exact .inl rfl

theorem trail_handOver_self : (s.handOver id leaving joining now).trail id =
    s.trail id ++ [⟨id, leaving, joining, now⟩] := by
  simp [trail, handOver_history]

theorem trail_handOver_of_ne {pull : String} (h : id ≠ pull) :
    (s.handOver pull leaving joining now).trail id = s.trail id := by
  simp [trail, handOver_history, Ne.symm h]

/-! ## Another status -/

variable {status : Status}

theorem pull?_setStatus_self :
    (s.setStatus id status now).pull? id = (s.pull? id).map (·.withStatus status now) := by
  unfold pull? setStatus
  induction s.pulls with
  | nil => rfl
  | cons p l ih => by_cases h : p.id = id <;> simp [PullRequest.withStatus, h] at ih ⊢; exact ih

theorem pull?_setStatus_of_ne {pull : String} (h : id ≠ pull) :
    (s.setStatus pull status now).pull? id = s.pull? id := by
  unfold pull? setStatus
  induction s.pulls with
  | nil => rfl
  | cons p l ih =>
    by_cases hp : p.id = pull <;> by_cases hid : p.id = id <;> simp_all [PullRequest.withStatus]

/-! ## A new pull request -/

/-- The store with a new pull request and its reviewers. -/
def opened (s : Store) (pull : PullRequest) (reviewers : List String) (now : Moment) : Store :=
  { s with
    pulls := s.pulls ++ [pull]
    assignments := s.assignments ++ reviewers.map (⟨pull.id, ·, now⟩) }

variable {rs : List String}

theorem seats_opened_self : (s.opened p rs now).seats p.id =
    s.seats p.id ++ rs.map (⟨p.id, ·, now⟩) := by
  simp [seats, opened, List.filter_map, Function.comp_def]

theorem seats_opened_of_ne (h : id ≠ p.id) : (s.opened p rs now).seats id = s.seats id := by
  simp [seats, opened, List.filter_map, Function.comp_def, Ne.symm h]

theorem pull?_opened_of_ne (h : id ≠ p.id) : (s.opened p rs now).pull? id = s.pull? id := by
  simp [pull?, opened, Ne.symm h]

theorem reviewers_opened_perm (h : s.seats p.id = []) :
    ((s.opened p rs now).reviewers p.id).Perm rs := by
  refine reviewers_perm.trans ?_
  rw [seats_opened_self, h, List.nil_append, List.map_map]
  exact .of_eq (List.map_id' rs)

end Store

end ReviewRota
