/-
  ReviewRota — who reviews.

  Nobody reviews a pull request of their own, and nobody reviews one twice.  A pull
  request never has more reviewers than the settings ask for: nothing checks that,
  but whoever takes over a review takes the place of somebody who leaves.

  * `Store.Reviewed`: what holds of a pull request and its reviewers at all times;
  * `Opening.reviewed`, `Turn.reviewed`: it holds of a new pull request, and every
    turn keeps it;
  * `Session.Reachable.reviewers_and_status`: it holds in every reachable session.
-/
import ReviewRota.Proofs.Runs

namespace ReviewRota

namespace Store

variable {s t : Store} {p q : PullRequest} {now : Moment} {most : Int} {view : PullView}

/-- What always holds of a pull request and its reviewers, if new ones get at most
    so many. -/
structure Reviewed (most : Int) (s : Store) (p : PullRequest) : Prop where
  stranger : p.author ∉ s.reviewers p.id
  bounded : (s.reviewers p.id).length ≤ most.toNat
  once : (s.reviewers p.id).Nodup
  dated : p.mergedAt.isSome ↔ p.status = .merged

/-- A place that is left is taken by at most one. -/
theorem length_passed_le {rs : List String} {leaving : String} {joining : Option String}
    (h : leaving ∈ rs) : (joining.toList ++ rs.filter (· ≠ leaving)).length ≤ rs.length := by
  have hlt : (rs.filter (· ≠ leaving)).length < rs.length :=
    List.length_filter_lt_length_iff_exists.2 ⟨leaving, h, by simp⟩
  have hle : joining.toList.length ≤ 1 := by cases joining <;> simp
  rw [List.length_append]
  omega

theorem Opening.reviewed (h : Opening most now s view t) (hs : s.Sound) :
    Reviewed most t view.row := by
  have hnodup := (h.sound hs).once view.id
  obtain ⟨hf, hv, ⟨u, -, -, -, hsub, hlen⟩, rfl⟩ := h
  have hperm : ((s.opened view.row view.reviewers now).reviewers view.id).Perm view.reviewers :=
    reviewers_opened_perm (hs.seats_eq_nil hf)
  refine ⟨fun hm => ?_, ?_, hnodup, ?_⟩
  · obtain ⟨v, -, ha, he⟩ := mem_candidates.1 (hsub.subset (hperm.mem_iff.1 hm))
    exact (Pool.admits_iff.1 ha).2.2.2 (List.mem_singleton.2 he)
  · show ((s.opened view.row view.reviewers now).reviewers view.id).length ≤ _
    rw [hperm.length_eq, hlen]
    omega
  · rw [hv]
    simp [PullView.row]

theorem Turn.reviewed (h : Turn now s t p q) (hr : Reviewed most s p) : Reviewed most t q := by
  obtain ⟨hstranger, hbounded, honce, hdated⟩ := hr
  cases h with
  | kept hseats =>
    rw [← reviewers_congr hseats] at hstranger hbounded honce
    exact ⟨hstranger, hbounded, honce, hdated⟩
  | merged _ hseats =>
    rw [← reviewers_congr hseats] at hstranger hbounded honce
    exact ⟨hstranger, hbounded, honce, by simp [PullRequest.withStatus]⟩
  | @passed leaving joining _ hl hj hseats =>
    have hperm : (t.reviewers p.id).Perm
        (joining.toList ++ (s.reviewers p.id).filter (· ≠ leaving)) :=
      reviewers_congr hseats ▸ reviewers_handOver_perm
    refine ⟨fun hm => ?_, ?_, ?_, hdated⟩
    · rcases List.mem_append.1 (hperm.mem_iff.1 hm) with hm | hm
      · exact (hj _ (Option.mem_toList.1 hm)).stranger rfl
      · exact hstranger (List.mem_of_mem_filter hm)
    · rw [hperm.length_eq]
      exact (length_passed_le hl).trans hbounded
    · exact hperm.nodup_iff.2 (nodup_passed honce fun j h => (hj j h).fresh)

theorem Course.reviewed {a b : Store × PullRequest} (h : Course a b) (hr : Reviewed most a.1 a.2) :
    Reviewed most b.1 b.2 := by
  induction h with
  | refl => exact hr
  | tail _ hn ih =>
    obtain ⟨_, hn⟩ := hn
    exact hn.reviewed ih

end Store

namespace Session

variable {engine : Settings.Engine} {s : Session} {p : PullRequest}

/-- **Reviewers and status.**  In every session that the desk can reach, the author
    of a pull request is none of its reviewers; these are distinct, and at most as
    many as the settings ask for; and the pull request has a time of merge if and
    only if it is merged. -/
theorem Reachable.reviewers_and_status (h : s.Reachable engine) (hp : p ∈ s.store.pulls) :
    p.author ∉ s.store.reviewers p.id ∧
      (s.store.reviewers p.id).length ≤ engine.maxReviewers.toNat ∧
      (s.store.reviewers p.id).Nodup ∧
      (p.mergedAt.isSome ↔ p.status = .merged) := by
  obtain ⟨now, before, view, after, hs, ho, hc⟩ := h.opening hp
  obtain ⟨hstranger, hbounded, honce, hdated⟩ := hc.reviewed (ho.reviewed hs)
  exact ⟨hstranger, hbounded, honce, hdated⟩

theorem reviewers_and_status_closing :
    let s := ((blank.along opening).along closing).store
    settled ∈ s.pulls ∧ settled.author ∉ s.reviewers settled.id ∧
      (s.reviewers settled.id).length ≤ 2 ∧ (s.reviewers settled.id).Nodup ∧
      (settled.mergedAt.isSome ↔ settled.status = .merged) :=
  ⟨settled_mem_closing, reachable_closing.reviewers_and_status settled_mem_closing⟩

end Session

end ReviewRota
