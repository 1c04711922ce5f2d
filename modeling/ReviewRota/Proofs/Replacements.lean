/-
  ReviewRota — replacing a reviewer.

  A request to replace a reviewer is refused for one of four reasons, in a fixed order.
  Otherwise one draw decides who joins, and it may decide for every active member of the
  team that the leaving reviewer is in by now who has no part in the pull request yet.
  One review changes hands, that is recorded, and nothing else changes.

  * `Desk.replaceReviewer_unknown`, `Desk.replaceReviewer_merged`,
    `Desk.replaceReviewer_stranger`: refusals before there is a pool, and
    `Desk.replaceReviewer_picked`: what a choice from the pool leads to;
  * `Session.Replaces`: the step has one reviewer replaced by another;
  * `Session.Reachable.reviewer_replaced`: what becomes of a request to replace one.
-/
import ReviewRota.Proofs.Deals
import ReviewRota.Proofs.Integrity
import ReviewRota.Proofs.Staffing

namespace ReviewRota

open Op

variable {c : Conditions} {s : Scene} {id leaving joining : String} {p : PullRequest}
  {user : User}

/-! ## The desk -/

namespace Desk

open Store

theorem replaceReviewer_unknown (hc : c.Calm s) (hp : s.store.pull? id = none) :
    (replaceReviewer id leaving).Refuses c s ⟨.pullUnknown, ""⟩ := by
  refine .bind (.unitOfWork (fun _ => .bind (.query (fun _ => ?_) hc.spared)) hc.spared)
  rw [hp]
  exact ends_refuse.2 ⟨rfl, rfl, rfl⟩

/-- Whether the pull request is merged matters before who reviews it. -/
theorem replaceReviewer_merged (hc : c.Calm s) (hp : s.store.pull? id = some p)
    (hm : p.status = .merged) : (replaceReviewer id leaving).Refuses c s ⟨.pullMerged, ""⟩ := by
  refine .bind (.unitOfWork (fun _ => .bind (.query (fun _ => ?_) hc.spared)) hc.spared)
  rw [hp]
  dsimp only
  rw [hm]
  exact ends_refuse.2 ⟨rfl, rfl, rfl⟩

theorem replaceReviewer_stranger (hc : c.Calm s) (hp : s.store.pull? id = some p)
    (ho : p.status = .opened) (hl : leaving ∉ s.store.reviewers id) :
    (replaceReviewer id leaving).Refuses c s ⟨.notAssigned, ""⟩ := by
  refine .bind (.unitOfWork (fun _ => .bind (.query (fun _ => ?_) hc.spared)) hc.spared)
  rw [hp]
  dsimp only
  rw [ho]
  refine .bind (.query (fun _ => ?_) hc.spared)
  dsimp only
  rw [if_pos hl]
  exact .bind (.report fun _ => ends_refuse.2 ⟨rfl, rfl, rfl⟩)

/-- A reviewer who is no user would be refused as unknown. -/
theorem replaceReviewer_unlisted (hc : c.Calm s) (hp : s.store.pull? id = some p)
    (ho : p.status = .opened) (hl : leaving ∈ s.store.reviewers id)
    (hu : s.store.user? leaving = none) :
    (replaceReviewer id leaving).Refuses c s ⟨.userUnknown, ""⟩ := by
  refine .bind (.unitOfWork (fun _ => .bind (.query (fun _ => ?_) hc.spared)) hc.spared)
  rw [hp]
  dsimp only
  rw [ho]
  refine .bind (.query (fun _ => ?_) hc.spared)
  dsimp only
  rw [if_neg (not_not_intro hl)]
  refine .bind (.query (fun _ => ?_) hc.spared)
  rw [hu]
  exact ends_refuse.2 ⟨rfl, rfl, rfl⟩

/-- **Whom a review goes to.**  Nothing keeps it from the user whom the choice yields, and
    it is refused if the choice yields nobody, whatever holds of the choice and of the
    draws left. -/
theorem replaceReviewer_picked {P : Option String → Generator → Prop} (hc : c.Calm s)
    (hp : s.store.pull? id = some p) (ho : p.status = .opened)
    (hl : leaving ∈ s.store.reviewers id) (hu : s.store.user? leaving = some user)
    (hP : (Drawing.choice (s.store.candidates
      { within := user.team, exclude := p.author :: s.store.reviewers id })).Ends s.generator P
        fun _ _ => False) :
    (replaceReviewer id leaving).Ends c s (fun r t => P (some r.2) t.generator) fun e t =>
      e = .refused ⟨.noCandidate, ""⟩ ∧ P none t.generator := by
  refine .bind (.unitOfWork (fun _ => .bind (.query (fun _ => ?_) hc.spared)) hc.spared)
  rw [hp]
  dsimp only
  rw [ho]
  refine .bind (.query (fun _ => ?_) hc.spared)
  dsimp only
  rw [if_neg (not_not_intro hl)]
  refine .bind (.query (fun _ => ?_) hc.spared)
  rw [hu]
  refine .bind (.query (fun _ => .bind (.drawing ?_)) hc.spared)
  refine (hP.and Drawing.choice_spec).mono (fun choice g hj => ?_) fun _ _ h => h.1.elim
  obtain ⟨hP, hpool, hsuf⟩ := hj
  cases choice with
  | none => exact ends_refuse.2 ⟨rfl, hP⟩
  | some j =>
    have hfresh : j ∉ (s.store.unassign id leaving).reviewers id := by
      obtain ⟨u, -, ha, rfl⟩ := mem_candidates.1 hpool
      intro hseated
      have hseated := (List.mem_filter.1 (reviewers_unassign_perm.mem_iff.1 hseated)).1
      exact (Pool.admits_iff.1 ha).2.2.2 (List.mem_cons_of_mem _ hseated)
    refine .bind (.bind (.query (fun _ => .bind (ends_modify.2 (ends_pure.2 ?_))) hc.spared))
    refine .bind (.attempt (fun _ _ _ => ?_) (fun _ e h => ?_) hc.spared)
    · exact .bind (.write (fun _ => ends_pure.2 (.bind (.report fun _ => hP))) hc.spared)
    · rw [assign_eq, if_neg hfresh] at h
      cases h

end Desk

/-! ## A step that replaces a reviewer -/

namespace Session

variable {engine : Settings.Engine} {s : Session} {x : Step}

/-- The step has one reviewer of the pull request replaced by another: it answers with the
    others and the new one, passes the review on, records that, and has taken one draw. -/
structure Replaces (s : Session) (x : Step) (p : PullRequest) (leaving joining : String) :
    Prop where
  reply : (s.take x).1 = .ok (.answer (.replaced
    (p.view ((s.store.reviewers p.id).filter (· ≠ leaving) ++ [joining])) joining))
  store : (s.next x).store =
    { s.store with
      assignments := s.store.assignments.filter
        (fun a => ¬ (a.pull = p.id ∧ a.reviewer = leaving)) ++
          [⟨p.id, joining, (s.arranged x.cue).clock⟩]
      history := s.store.history ++
        [⟨p.id, leaving, some joining, (s.arranged x.cue).clock⟩] }
  length : ((s.next x).store.reviewers p.id).length = (s.store.reviewers p.id).length
  draws : s.Draws x 1

theorem replaces_of_choice {P : Option String → Prop} (hs : s.store.Sound)
    (hx : x.Asks s (.replaceReviewer (.text p.id) (.text leaving))) (hc : s.Calm x)
    (hp : p ∈ s.store.pulls) (ho : p.status = .opened) (hl : leaving ∈ s.store.reviewers p.id)
    (hu : s.store.user? leaving = some user)
    (hP : (Drawing.choice (s.store.candidates
      { within := user.team, exclude := p.author :: s.store.reviewers p.id })).Ends
        (s.scene x.cue).generator (fun joining _ => P joining) fun _ _ => False) :
    (∃ joining, P (some joining) ∧ s.Replaces x p leaving joining) ∨
      P none ∧ s.Refuses x ⟨.noCandidate, ""⟩ := by
  have hpicked := Desk.replaceReviewer_picked hc.conditions (hs.pull?_eq hp) ho hl hu
    ((hP.and Drawing.choice_skip).mono (fun _ _ h => h) fun _ _ => And.left)
  have hends : (Desk.performAny (.replaceReviewer (.text p.id) (.text leaving))).Ends
      (s.conditions x.site.settings.engine x.cue) (s.scene x.cue)
      (fun a t => ∃ j, a = .replaced
          (p.view ((s.store.reviewers p.id).filter (· ≠ leaving) ++ [j])) j ∧ P (some j) ∧
        t.generator = (s.scene x.cue).generator.skip 1 ∧
        t.store = s.store.handOver p.id leaving (some j) (s.arranged x.cue).clock)
      fun e t => e = .refused ⟨.noCandidate, ""⟩ ∧ P none ∧ t.store = s.store ∧
        t.generator = (s.scene x.cue).generator := by
    refine .bind ((hpicked.and Desk.replaceReviewer_ends).mono ?_ ?_)
    · rintro ⟨view, j⟩ t ⟨⟨hj, hg⟩, q, hq, hid, -, -, -, hstore, hview⟩
      obtain rfl := hs.pull_eq hq hp hid
      exact ends_pure.2 ⟨j, congrArg (Answer.replaced · j) hview, hj, hg, hstore⟩
    · rintro e t ⟨⟨he, hn, hg⟩, hstore⟩
      exact ⟨he, hn, hstore, hg⟩
  rcases take_of_desk hx (fun _ _ _ h => h) hends with
    ⟨_, hr, j, rfl, hj, hg, hstore⟩ | ⟨_, hr, rfl, hn, hstore, hg⟩
  · have hstore : (s.next x).store =
        s.store.handOver p.id leaving (some j) (s.arranged x.cue).clock := hstore
    refine .inl ⟨j, hj, hr, hstore, ?_, draws_of_skip hg⟩
    rw [hstore, Store.reviewers_handOver_perm.length_eq,
      (Store.perm_cons_filter_ne (hs.once p.id) hl).length_eq]
    rfl
  · exact .inr ⟨hn, hr, hstore, draws_of_skip hg⟩

/-- **What becomes of a request to replace a reviewer.**  In a reachable session, and while
    nothing goes wrong, it is refused if the pull request is unknown, or else is merged, or
    else if the user does not review it, or else if nobody may join; then no draw is taken.
    Whoever reviews is known, so this is all that is refused.  Otherwise one draw makes one
    of the users who may join take over the review, and it may be any of them. -/
theorem Reachable.reviewer_replaced (h : s.Reachable engine)
    (hx : x.Asks s (.replaceReviewer (.text id) (.text leaving))) (hc : s.Calm x) :
    ((∀ p ∈ s.store.pulls, p.id ≠ id) → s.Refuses x ⟨.pullUnknown, ""⟩) ∧
    ∀ p ∈ s.store.pulls, p.id = id →
      (p.status = .merged → s.Refuses x ⟨.pullMerged, ""⟩) ∧
      (p.status = .opened → leaving ∉ s.store.reviewers p.id → s.Refuses x ⟨.notAssigned, ""⟩) ∧
      (p.status = .opened → leaving ∈ s.store.reviewers p.id →
        ((s.store.reviewers p.id).filter (· ≠ leaving)).Pairwise (· < ·) ∧
        ∃ u ∈ s.store.users, u.id = leaving ∧
          let fit := s.store.available u.team (p.author :: s.store.reviewers p.id)
          (fit = ∅ → s.Refuses x ⟨.noCandidate, ""⟩) ∧
          (fit.Nonempty → ∃ joining ∈ fit, s.Replaces x p leaving joining) ∧
          ∀ joining ∈ fit, ∃ d : Nat, ∀ rest, Draw.NeverFail rest →
            s.Replaces (x.drawing (.index d :: rest)) p leaving joining) := by
  have hs := h.sound
  refine ⟨fun hn => ?_, ?_⟩
  · exact refuses_of_desk hx (Desk.replaceReviewer_unknown hc.conditions
      (Store.pull?_eq_none_iff.2 hn)).bind
  rintro p hp rfl
  have hfound : s.store.pull? p.id = some p := hs.pull?_eq hp
  refine ⟨fun hm => ?_, fun ho hl => ?_, fun ho hl => ⟨(hs.pairwise_reviewers p.id).filter _, ?_⟩⟩
  · exact refuses_of_desk hx (Desk.replaceReviewer_merged hc.conditions hfound hm).bind
  · exact refuses_of_desk hx (Desk.replaceReviewer_stranger hc.conditions hfound ho hl).bind
  obtain ⟨u, hu, rfl⟩ := h.linked.knows_reviewer hl
  have huser : s.store.user? u.id = some u := hs.user?_eq hu
  let pool := s.store.candidates
    { within := u.team, exclude := p.author :: s.store.reviewers p.id }
  have hfit (r : String) : r ∈ pool ↔
      r ∈ s.store.available u.team (p.author :: s.store.reviewers p.id) := by
    rw [← Store.toFinset_candidates, List.mem_toFinset]
  have hany := replaces_of_choice hs hx hc hp ho hl huser
    (Drawing.choice_spec.mono (fun _ _ h => h.1) fun _ _ h => h hc.draws)
  refine ⟨u, hu, rfl, fun hempty => ?_, fun ⟨r, hr⟩ => ?_, fun j hj => ?_⟩
  · rcases hany with ⟨j, hj, -⟩ | ⟨-, hrefuses⟩
    · have hj := (hfit j).1 hj
      rw [hempty] at hj
      cases hj
    · exact hrefuses
  · rcases hany with ⟨j, hj, hreplaces⟩ | ⟨hnone, -⟩
    · exact ⟨j, (hfit j).1 hj, hreplaces⟩
    · have hr := (hfit r).2 hr
      rw [show pool = [] from hnone] at hr
      cases hr
  · obtain ⟨d, hd, rfl⟩ := List.getElem_of_mem ((hfit j).2 hj)
    refine ⟨d, fun rest hrest => ?_⟩
    have hcalm : s.Calm (x.drawing (.index d :: rest)) :=
      hc.drawing (List.forall_mem_cons.2 ⟨⟨d, rfl⟩, hrest⟩)
    rcases replaces_of_choice hs hx.drawing hcalm hp ho hl huser (Drawing.choice_dealt hd) with
      ⟨j, hj, hreplaces⟩ | ⟨hnone, -⟩
    · rwa [← Option.some.inj hj]
    · cases hnone

theorem reviewer_replaced_opening :
    let s := blank.along opening
    let x : Step := { action := .desk (.replaceReviewer (.text "p1") (.text "cyd")) }
    let p : PullRequest := ⟨"p1", "Title", "ann", .opened, ⟨0⟩, none⟩
    s.Replaces x p "cyd" "bob" := by
  intro s x p
  have hp : p ∈ (blank.along opening).store.pulls := by decide +kernel
  have hl : "cyd" ∈ (blank.along opening).store.reviewers "p1" := by decide +kernel
  have hdraws : (blank.along opening).draws = [] := by decide +kernel
  have hcalm : s.Calm x := calm_of_cue rfl hdraws
  obtain ⟨-, hknown⟩ := reachable_opening.reviewer_replaced (.desk rfl) hcalm
  obtain ⟨-, -, hassigned⟩ := hknown p hp rfl
  obtain ⟨-, u, hu, hid, -, hreplaced, -⟩ := hassigned rfl hl
  let cyd : User := ⟨"cyd", "Cyd", "core", true, ⟨0⟩, ⟨0⟩⟩
  have hcyd : cyd ∈ (blank.along opening).store.users := by decide +kernel
  obtain rfl : u = cyd := reachable_opening.sound.user_eq hu hcyd hid
  have hfit : (blank.along opening).store.available "core" ("ann" ::
      (blank.along opening).store.reviewers "p1") = {"bob"} := by decide +kernel
  obtain ⟨j, hj, hreplaces⟩ := hreplaced (hfit ▸ Finset.singleton_nonempty "bob")
  rw [hfit, Finset.mem_singleton] at hj
  rwa [hj] at hreplaces

end Session

end ReviewRota
