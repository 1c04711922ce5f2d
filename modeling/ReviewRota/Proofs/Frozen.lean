/-
  ReviewRota — merged pull requests.

  A merged pull request is final.  Whatever is asked of the desk afterwards, its row,
  its reviews and its history stay as they are; merging it again answers with the
  same view, and asking for another reviewer or another status is refused.

  * `Desk.merge_settled`, `Desk.replaceReviewer_settled`, `Desk.moveTo_settled`: what
    the desk answers about a merged pull request;
  * `Session.Reachable.merged_frozen`: nothing that follows changes anything.
-/
import ReviewRota.Proofs.Answers

namespace ReviewRota

open Op

variable {c : Conditions} {s : Scene} {p : PullRequest} {u : Argument} {target : Status}

/-! ## The desk -/

namespace Desk

variable (hp : s.store.pull? p.id = some p) (hm : p.status = .merged)

include hp hm

/-- Merging what is merged answers with the pull request as it stands. -/
theorem merge_settled : (performAny (.merge (.text p.id))).Ends c s
    (fun a _ => a = .pull (p.view (s.store.reviewers p.id))) fun e t => c.Struck e t := by
  have hmerge : (merge p.id).Ends c s (fun v _ => v = p.view (s.store.reviewers p.id))
      fun e t => c.Struck e t := by
    refine .bind (.unitOfWork (fun _ => .bind (.query (fun _ => ?_) fun _ _ h _ => h))
      fun _ _ h _ => h)
    rw [hp]
    dsimp only
    rw [if_pos hm]
    refine .bind (ends_pure.2 (.bind (.query (fun _ => ?_) fun _ _ h _ => h)))
    exact ends_pure.2 (.bind (.report fun _ => ends_pure.2 rfl))
  exact ends_map.2 (hmerge.mono (fun _ _ h => congrArg Answer.pull h) fun _ _ h => h)

/-- No reviewer of a merged pull request is replaced, whoever is named. -/
theorem replaceReviewer_settled : (performAny (.replaceReviewer (.text p.id) u)).Ends c s
    (fun _ _ => False) fun e t => e = .refused ⟨.pullMerged, ""⟩ ∨ c.Struck e t := by
  have hclosed : p.status ≠ .opened := by simp [hm]
  cases u with
  | text leaving =>
    refine .bind (.bind (.unitOfWork (fun _ => .bind (.query (fun _ => ?_) fun _ _ h _ => .inr h))
      fun _ _ h _ => .inr h))
    rw [hp]
    dsimp only
    rw [if_pos hclosed]
    exact ends_refuse.2 (.inl rfl)
  | missing | broken =>
    refine .unitOfWork (fun _ => .bind (.query (fun _ => ?_) fun _ _ h _ => .inr h))
      fun _ _ h _ => .inr h
    rw [hp]
    dsimp only
    rw [if_pos hclosed]
    exact ends_refuse.2 (.inl rfl)

/-- A merged pull request has no transition. -/
theorem moveTo_settled : (moveAny (.text p.id) target).Ends c s (fun _ _ => False)
    fun _ _ => True := by
  refine .unitOfWork (fun _ => .bind (.query (fun _ => ?_) fun _ _ _ _ => trivial))
    fun _ _ _ _ => trivial
  rw [hp]
  refine .bind (transition_ends.mono ?_ fun _ _ h => h)
  rintro _ _ ⟨ho, -⟩
  rw [hm] at ho
  cases ho

end Desk

/-! ## Steps -/

namespace Session

variable {s : Session} {engine : Settings.Engine} {steps : List Step}

/-- **A merged pull request is frozen.**  After any regular steps it has the same row,
    the same reviews and the same history.  Merging it yields the same view, and
    replacing a reviewer of it, whoever is named, is refused, unless a call goes
    wrong; any transition fails. -/
theorem Reachable.merged_frozen (h : s.Reachable engine) (hp : p ∈ s.store.pulls)
    (hm : p.status = .merged) (hsteps : ∀ x ∈ steps, Step.Regular engine x) :
    let t := s.along steps
    (t.store.pulls.filter (·.id = p.id) = [p] ∧
      t.store.seats p.id = s.store.seats p.id ∧ t.store.trail p.id = s.store.trail p.id) ∧
    (∀ x, x.Asks t (.merge (.text p.id)) → t.Spared x →
      (t.take x).1 = .ok (.answer (.pull (p.view (s.store.reviewers p.id))))) ∧
    (∀ x u, x.Asks t (.replaceReviewer (.text p.id) u) → t.Spared x →
      (t.take x).1 = .error (.refused ⟨.pullMerged, ""⟩)) ∧
    ∀ x target, x.action = .moveTo (.text p.id) target → ∃ e, (t.take x).1 = .error e := by
  intro t
  have ht : t.store.Sound := (h.along hsteps).sound
  obtain ⟨q, hq, hc⟩ := course_along hsteps h.sound hp
  obtain ⟨rfl, hseats, htrail⟩ := hc.of_merged hm
  have hfound : t.store.pull? q.id = some q := ht.pull?_eq hq
  refine ⟨⟨ht.filter_pulls hq, hseats, htrail⟩, fun x hx hs => ?_, fun x u hx hs => ?_,
    fun x target hx => ?_⟩
  · have hmerge := fun c => (Desk.merge_settled (c := c) (s := t.scene x.cue) hfound hm).mono
      (fun _ _ h => h) fun _ _ => Or.inr (a := False)
    rcases take_of_asks hx hs hmerge with ⟨_, hr, rfl⟩ | ⟨_, -, he⟩
    · rw [hr, ← Store.reviewers_congr hseats]
      rfl
    · exact he.elim
  · rcases take_of_asks hx hs fun c => Desk.replaceReviewer_settled hfound hm with
      ⟨_, -, hd⟩ | ⟨_, hr, rfl⟩
    · exact hd.elim
    · exact hr
  · have hmove : (x.action.work x.site t.serving).Ends
        (t.conditions x.site.settings.engine x.cue) (t.scene x.cue) (fun _ _ => False)
        fun _ _ => True := by
      rw [hx]
      exact ends_map.2 (Desk.moveTo_settled hfound hm)
    rcases take_of_ends hmove with ⟨_, -, hd⟩ | ⟨e, hr, -⟩
    · exact hd.elim
    · exact ⟨e, hr⟩

/-- Its reviewers are switched off, and its id is asked for again, at an earlier time. -/
def afterwards : List Step :=
  [{ action := .desk (.deactivateTeam (.text "ops")) },
    { cue := { clock := some ⟨-1⟩ },
      action := .service (.openPull (.text "p1") (.text "Other") (.text "eve")) }]

theorem merged_frozen_afterwards :
    let s := (blank.along opening).along closing
    let t := s.along afterwards
    (t.store.pulls.filter (·.id = "p1") = [settled] ∧
      t.store.seats "p1" = s.store.seats "p1" ∧ t.store.trail "p1" = s.store.trail "p1") ∧
    (t.take { action := .desk (.merge (.text "p1")) }).1 =
      .ok (.answer (.pull (settled.view (s.store.reviewers "p1")))) ∧
    (t.take { action := .service (.replaceReviewer (.text "p1") (.text "eve")) }).1 =
      .error (.refused ⟨.pullMerged, ""⟩) ∧
    ∃ e, (t.take { action := .moveTo (.text "p1") .opened }).1 = .error e := by
  have hsteps : ∀ x ∈ afterwards, Step.Regular {} x := by decide +kernel
  obtain ⟨hrows, hmerge, hreplace, hmove⟩ :=
    reachable_closing.merged_frozen settled_mem_closing rfl hsteps
  refine ⟨hrows, ?_, ?_, hmove _ _ rfl⟩
  · exact hmerge _ (.desk rfl) (spared_of_fault rfl)
  · exact hreplace _ _ (.service rfl (by decide +kernel) (by decide +kernel)) (spared_of_fault rfl)

end Session

end ReviewRota
