/-
  ReviewRota — what is answered is what is stored.

  A request that opens or changes a pull request is answered with a view of it.  The view
  is put together from what the operation has at hand, while everything that reads the
  pull request later finds its rows on a way of its own.  All of them show the same.

  * `Request.changed?` is the pull request that a request opens or changes, and
    `Answer.view?` the view in an answer;
  * `Desk.performAny_shows`: the view that is answered shows what is stored;
  * `Store.Shows.reviewers_eq`, `Store.Shows.reviewedBy` and `Store.Shows.countsByPull`:
    what each way to the rows finds of a pull request that a view shows;
  * `Session.Tells`: the requests that read the pull request are answered as the view
    shows it, and `Session.Reachable.answer_stored`: so they are after every answer.
-/
import ReviewRota.Proofs.Wire

namespace ReviewRota

variable {τ : Type} {c : Conditions} {s : Scene}

/-- The pull request that the request opens or changes. -/
def Request.changed? : Request τ → Option τ
  | openPull pull _ _ | replaceReviewer pull _ | merge pull => some pull
  | _ => none

/-- The view of a pull request in an answer. -/
def Answer.view? : Answer → Option PullView
  | pull view | replaced view _ => some view
  | _ => none

theorem Request.changed?_complete {r : Request Argument} {r' : Request String} {q : Argument}
    (h : r.complete? = some r') (hq : r.changed? = some q) :
    ∃ id, q = .text id ∧ r'.changed? = some id := by
  cases r <;> cases hq <;> simp only [complete?, Option.bind_eq_bind, Option.bind_eq_some_iff,
    Option.map_eq_some_iff, Option.pure_def, Option.some.injEq, Desk.text?_eq_some] at h
  case openPull => obtain ⟨id, hid, _, _, _, _, rfl⟩ := h; exact ⟨id, hid, rfl⟩
  case replaceReviewer => obtain ⟨id, hid, _, _, rfl⟩ := h; exact ⟨id, hid, rfl⟩
  case merge => obtain ⟨id, hid, rfl⟩ := h; exact ⟨id, hid, rfl⟩

/-! ## The view that is answered -/

namespace Desk

open Op Store

/-- Whoever joins is shown last, and stored among the others. -/
theorem shows_handOver {p : PullRequest} {leaving joining : String} {now : Moment} {s : Store}
    (hp : s.pull? p.id = some p) : (s.handOver p.id leaving (some joining) now).Shows
      (p.view ((s.reviewers p.id).filter (· ≠ leaving) ++ [joining])) := by
  constructor
  · exact (congrArg (List.find? _) handOver_pulls).trans hp
  · have hstored : ((s.handOver p.id leaving (some joining) now).reviewers p.id).Perm
        ([joining] ++ (s.reviewers p.id).filter (· ≠ leaving)) := reviewers_handOver_perm
    exact List.perm_append_comm.trans hstored.symm

/-- The pull request that was asked about is shown as it is stored. -/
theorem perform_shows {r : Request String} {id : String} (hr : r.changed? = some id)
    (hs : s.store.Sound) : (perform r).Ends c s
      (fun a t => ∃ v, a.view? = some v ∧ v.id = id ∧ t.store.Shows v) fun _ _ => True := by
  cases r with
  | openPull =>
    obtain rfl := Option.some.inj hr
    refine ends_map.2 (openPull_ends.mono (fun view t h => ?_) fun _ _ _ => trivial)
    obtain ⟨hid, -, -, ho⟩ := h
    exact ⟨view, rfl, hid, ho.shows hs⟩
  | replaceReviewer =>
    obtain rfl := Option.some.inj hr
    refine .bind (replaceReviewer_ends.mono (fun r t h => ends_pure.2 ?_) fun _ _ _ => trivial)
    obtain ⟨p, hp, rfl, -, -, -, ht, hview⟩ := h
    refine ⟨r.1, rfl, by rw [hview]; rfl, ?_⟩
    rw [ht, hview]
    exact shows_handOver (hs.pull?_eq hp)
  | merge =>
    obtain rfl := Option.some.inj hr
    refine ends_map.2 (merge_ends.mono (fun view t h => ?_) fun _ _ _ => trivial)
    exact ⟨view, rfl, h.2⟩
  | _ => cases hr

/-- A request about a pull request that lacks a text is not answered. -/
theorem performIncomplete_lost {r : Request Argument} {q : Argument} (hr : r.changed? = some q) :
    (performIncomplete r).Yields fun _ => False := by
  cases r with
  | openPull _ _ author =>
    cases author with
    | text => exact openUnnamed_yields
    | missing | broken => exact absent_yields
  | replaceReviewer pull =>
    cases pull with
    | text => exact replaceUnnamed_yields
    | missing | broken => exact absent_yields
  | merge => exact absent_yields
  | _ => cases hr

/-- **What is answered is what is stored.** -/
theorem performAny_shows {r : Request Argument} {q : Argument} (hr : r.changed? = some q)
    (hs : s.store.Sound) : (performAny r).Ends c s
      (fun a t => ∃ v, a.view? = some v ∧ q = .text v.id ∧ t.store.Shows v) fun _ _ => True := by
  unfold performAny
  cases h : r.complete? with
  | some r' =>
    obtain ⟨id, rfl, hid⟩ := Request.changed?_complete h hr
    refine (perform_shows hid hs).mono (fun a t ha => ?_) fun _ _ h => h
    obtain ⟨v, hv, rfl, hshows⟩ := ha
    exact ⟨v, hv, rfl, hshows⟩
  | none =>
    exact (performIncomplete_lost hr c s).mono (fun _ _ => False.elim) fun _ _ h => h

/-! ### Requests that read a pull request -/

theorem pullReport_answer {p : PullRequest} {id : String} (hp : s.store.pull? id = some p) :
    (performAny (.pullReport (.text id))).Ends c s
      (fun a _ => a = .report ⟨p.id, p.title, p.author, p.status, s.store.reviewers id, p.createdAt,
        p.mergedAt, s.store.handovers id⟩)
      fun e t => c.Struck e t := by
  refine ends_map.2 (.unitOfWork (fun _ => .bind (.query (fun _ => ?_) fun _ _ h _ => h))
    fun _ _ h _ => h)
  rw [hp]
  refine .bind (.query (fun _ => .bind (.query (fun _ => ?_) fun _ _ h _ => h)) fun _ _ h _ => h)
  exact ends_pure.2 rfl

theorem reviewsOf_answer {user : String} : (performAny (.reviewsOf (.text user))).Ends c s
    (fun a _ => a = .reviews ((s.store.reviewedBy user).map PullRequest.brief))
    fun e t => c.Struck e t := by
  refine ends_map.2 (.unitOfWork (fun _ => .bind (.bind (.query (fun _ => ?_) fun _ _ h _ => h)))
    fun _ _ h _ => h)
  exact ends_pure.2 (ends_pure.2 rfl)

end Desk

/-! ## The ways to a pull request -/

/-- The order of texts depends on the texts alone. -/
theorem ascending_congr {l m : List String} (h : l.Perm m) : ascending l = ascending m := by
  refine sortBy_congr (fun a b => ?_) (fun a b c hab hbc => ?_) (fun a b hab hba => ?_) h
  · simpa using String.le_total a b
  · exact decide_eq_true (String.le_trans (of_decide_eq_true hab) (of_decide_eq_true hbc))
  · exact String.le_antisymm (of_decide_eq_true hab) (of_decide_eq_true hba)

/-- A tally has one count of each key that it counts, and no other. -/
theorem filter_tally {α : Type} [DecidableEq α] {keys : List α} {k : α} :
    (tally keys).filter (·.1 = k) = if k ∈ keys then [(k, keys.count k)] else [] := by
  have hkey : (distinct keys).filter (· = k) = if k ∈ keys then [k] else [] := by
    rw [List.filter_eq, (nodup_distinct keys).count]
    simp only [mem_distinct]
    split <;> rfl
  rw [tally, List.filter_map]
  simp only [Function.comp_def, hkey]
  split <;> rfl

namespace Store

variable {s : Store} {v : PullView} {p : PullRequest} {id user : String}

/-- Of the pull requests that a user reviews, one is found as often as the user is its
    reviewer. -/
theorem filter_reviewedBy (hp : s.pull? id = some p) :
    (s.reviewedBy user).filter (·.id = id) = List.replicate ((s.reviewers id).count user) p := by
  have hrows : ∀ l : List Assignment,
      (l.filterMap fun a => if a.reviewer = user then s.pull? a.pull else none).filter (·.id = id) =
        List.replicate (((l.filter (·.pull = id)).map Assignment.reviewer).count user) p := by
    intro l
    induction l with
    | nil => rfl
    | cons a l ih =>
      by_cases hr : a.reviewer = user
      · by_cases ha : a.pull = id
        · have hid : p.id = id := (mem_of_pull? hp).2
          simp [hr, ha, hp, hid, ih, List.replicate_succ]
        · cases hq : s.pull? a.pull with
          | none => simp [hr, ha, hq, ih]
          | some q =>
            have hid : q.id ≠ id := by rwa [(mem_of_pull? hq).2]
            simp [hr, ha, hq, hid, ih]
      · by_cases ha : a.pull = id <;> simp [hr, ha, ih]
  refine List.perm_replicate.1 ?_
  rw [reviewers_perm.count_eq, seats, ← hrows]
  exact (sortBy_perm _ _).filter _

namespace Shows

theorem nodup (h : s.Shows v) (hs : s.Sound) : v.reviewers.Nodup :=
  h.reviewers.nodup_iff.2 (hs.once _)

theorem reviewers_eq (h : s.Shows v) : s.reviewers v.id = ascending v.reviewers :=
  (ascending_congr (h.reviewers.trans reviewers_perm)).symm

theorem filter_reviewedBy (h : s.Shows v) (hs : s.Sound) :
    (s.reviewedBy user).filter (·.id = v.id) = if user ∈ v.reviewers then [v.row] else [] := by
  rw [Store.filter_reviewedBy h.row, ← h.reviewers.count_eq, (h.nodup hs).count]
  split <;> rfl

theorem filter_counts {counts : List (String × Nat)} (h : s.Shows v)
    (hc : counts.Perm s.countsByPull) : counts.filter (·.1 = v.id) =
      if v.reviewers = [] then [] else [(v.id, v.reviewers.length)] := by
  have hcount : (s.assignments.map Assignment.pull).count v.id = v.reviewers.length := by
    rw [h.reviewers.length_eq, reviewers_perm.length_eq, List.length_map, seats,
      ← List.countP_eq_length_filter, List.count, List.countP_map]
    rfl
  have hmem : v.id ∈ s.assignments.map Assignment.pull ↔ v.reviewers ≠ [] := by
    rw [← List.count_pos_iff, hcount, List.length_pos_iff]
  have hperm : (counts.filter (·.1 = v.id)).Perm
      ((tally (s.assignments.map Assignment.pull)).filter (·.1 = v.id)) :=
    (hc.trans (ascendingBy_perm _ _)).filter _
  rw [filter_tally, hcount] at hperm
  by_cases hv : v.reviewers = []
  · rw [if_neg (fun hm => hmem.1 hm hv)] at hperm
    rw [if_pos hv, List.perm_nil.1 hperm]
  · rw [if_pos (hmem.2 hv)] at hperm
    rw [if_neg hv, List.perm_singleton.1 hperm]

end Shows

end Store

/-! ## Sessions -/

namespace Session

variable {engine : Settings.Engine} {s t : Session} {x : Step} {r : Request Argument}
  {q : Argument} {v : PullView} {reply : Reply}

/-- Whoever reads the pull request reads what the view shows: its report, the reviews of
    every user, and the counts by pull request. -/
structure Tells (t : Session) (v : PullView) : Prop where
  report : ∀ y, y.Asks t (.pullReport (.text v.id)) → t.Spared y →
    (t.take y).1 = .ok (.answer (.report ⟨v.id, v.title, v.author, v.status,
      ascending v.reviewers, v.createdAt, v.mergedAt, t.store.handovers v.id⟩))
  reviews : ∀ y user, y.Asks t (.reviewsOf (.text user)) → t.Spared y →
    ∃ pulls, (t.take y).1 = .ok (.answer (.reviews pulls)) ∧ pulls.filter (·.id = v.id) =
      if user ∈ v.reviewers then [⟨v.id, v.title, v.author, v.status⟩] else []
  counts : ∀ y, y.Asks t .overview → t.Spared y →
    ∃ o, (t.take y).1 = .ok (.answer (.overview o)) ∧ o.byPull.filter (·.1 = v.id) =
      if v.reviewers = [] then [] else [(v.id, v.reviewers.length)]

/-- What a view shows is what is read. -/
theorem tells_of_shows (h : t.store.Shows v) (hs : t.store.Sound) : t.Tells v := by
  constructor
  · intro y hy hspared
    obtain ⟨_, hreply, rfl⟩ := take_answered hy hspared (Desk.pullReport_answer h.row)
    rw [hreply]
    have hreviewers : (t.scene y.cue).store.reviewers v.id = ascending v.reviewers := h.reviewers_eq
    rw [hreviewers]
    rfl
  · intro y user hy hspared
    obtain ⟨_, hreply, rfl⟩ := take_answered hy hspared Desk.reviewsOf_answer
    refine ⟨_, hreply, ?_⟩
    have hrows : (t.store.reviewedBy user).filter (·.id = v.id) =
        if user ∈ v.reviewers then [v.row] else [] := h.filter_reviewedBy hs
    rw [List.filter_map]
    change ((t.store.reviewedBy user).filter (·.id = v.id)).map PullRequest.brief = _
    rw [hrows]
    split <;> rfl
  · intro y hy hspared
    exact ⟨_, take_overview hy hspared, h.filter_counts (sortBy_perm _ _)⟩

/-- What is answered shows what the step leaves in the store. -/
theorem next_shows (hx : x.Makes r) (hr : r.changed? = some q) (hs : s.store.Sound)
    (hok : (s.take x).1 = .ok reply) :
    ∃ a v, reply = .answer a ∧ a.view? = some v ∧ q = .text v.id ∧ (s.next x).store.Shows v := by
  obtain ⟨a, ha, v, hv, hq, hshows⟩ := take_of_makes hx (Desk.performAny_shows hr hs) hok
  exact ⟨a, v, ha, hv, hq, hshows⟩

/-- **What is answered is what is stored.**  A request that opens or changes a pull request
    and is answered is answered with a view of that pull request, in which nobody stands
    twice, and whoever reads the pull request next reads what the view shows. -/
theorem Reachable.answer_stored (h : s.Reachable engine) (hx : x.Makes r)
    (hr : r.changed? = some q) (hok : (s.take x).1 = .ok reply) :
    ∃ a v, reply = .answer a ∧ a.view? = some v ∧ q = .text v.id ∧ v.reviewers.Nodup ∧
      (s.next x).Tells v := by
  have hsound : (s.next x).store.Sound := next_sound hx.regular h.sound
  obtain ⟨a, v, hreply, hv, hq, hshows⟩ := next_shows hx hr h.sound hok
  exact ⟨a, v, hreply, hv, hq, hshows.nodup hsound, tells_of_shows hshows hsound⟩

theorem answerOf?_eq_some {outcome : Except Failure Reply} {a : Answer}
    (h : answerOf? outcome = some a) : outcome = .ok (.answer a) := by
  unfold answerOf? at h
  split at h
  next => rw [Option.some.inj h]
  next => cases h

/-- A reviewer is replaced once more: the one who joins comes before the others by name,
    and is answered last. -/
theorem answer_stored_opening :
    let s := blank.along opening
    let x : Step := { action := .desk (.replaceReviewer (.text "p1") (.text "cyd")) }
    let v : PullView := ⟨"p1", "Title", "ann", .opened, ["dan", "bob"], ⟨0⟩, none⟩
    (s.take x).1 = .ok (.answer (.replaced v "bob")) ∧ (s.next x).Tells v := by
  intro s x v
  have hok : (s.take x).1 = .ok (.answer (.replaced v "bob")) :=
    answerOf?_eq_some (by decide +kernel)
  obtain ⟨a, w, ha, hw, -, -, htells⟩ := reachable_opening.answer_stored (x := x) (.inl rfl) rfl hok
  obtain rfl := Reply.answer.inj ha
  obtain rfl := Option.some.inj hw
  exact ⟨hok, htells⟩

end Session

end ReviewRota
