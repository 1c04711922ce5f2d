/-
  ReviewRota — teams switched off in turn.

  Some teams may be switched off in any order, once or more than once, and with any
  picks: the same users are inactive in the end, the same number of them has been
  counted, merged pull requests have the reviewers they had, and open ones have a
  number of reviewers that is known from the start.

  * `Step.Deactivates`: the step switches off a team, and nothing goes wrong;
  * `Session.next_deactivated`: what one such step does;
  * `Session.deactivated_along`: what such steps do in turn;
  * `Session.Reachable.deactivations_agree`: two runs over the same teams agree.
-/
import ReviewRota.Proofs.Runs
import ReviewRota.Proofs.Staffing

namespace ReviewRota

/-- The step switches off a team at the desk; no call goes wrong, and the draws that
    it arranges do not fail. -/
structure Step.Deactivates (team : String) (x : Step) : Prop where
  action : x.action = .desk (.deactivateTeam (.text team))
  fault : x.cue.fault = none
  draws : ∀ ds ∈ x.cue.draws, Draw.NeverFail ds

/-- A step that switches off a team. -/
def Step.deactivate (team : String) : Step := { action := .desk (.deactivateTeam (.text team)) }

theorem Step.deactivates_deactivate {team : String} : (deactivate team).Deactivates team :=
  ⟨rfl, rfl, nofun⟩

theorem Step.deactivates_map {teams : List String} :
    List.Forall₂ Step.Deactivates teams (teams.map Step.deactivate) :=
  List.forall₂_map_right_iff.2 (List.forall₂_same.2 fun _ _ => deactivates_deactivate)

namespace Session

open Op

variable {engine : Settings.Engine} {s : Session} {x : Step} {team : String}

/-- The reply to a request that switches off a team. -/
def deactivation (d : Deactivation) : Except Failure Reply := .ok (.answer (.deactivation d))

theorem calm_of_deactivates (hx : x.Deactivates team) (hd : Draw.NeverFail s.draws) :
    (s.conditions x.site.settings.engine x.cue).Calm (s.scene x.cue) := by
  refine ⟨hx.fault, ?_⟩
  show Draw.NeverFail (x.cue.draws.getD s.draws)
  cases hc : x.cue.draws with
  | none => exact hd
  | some ds => exact hx.draws ds hc

/-- **One team switched off.**  The step answers with the number of its active members,
    and their open reviews are repaired. -/
theorem next_deactivated (hs : s.store.Sound) (hd : Draw.NeverFail s.draws)
    (hx : x.Deactivates team) (ht : (s.store.team? team).isSome) :
    ∃ d now, (s.take x).1 = deactivation d ∧
      d.deactivated = (s.store.activeMembers team).length ∧
      Desk.Cascading team (s.store.activeMembers team) now (s.store.switchOff team now) []
        (s.next x).store ∧
      Draw.NeverFail (s.next x).draws := by
  have hcalm := calm_of_deactivates hx hd
  have hends : (x.action.work x.site s.serving).Ends (s.conditions x.site.settings.engine x.cue)
      (s.scene x.cue) (fun reply t => ∃ d now, reply = .answer (.deactivation d) ∧
        d.deactivated = (s.store.activeMembers team).length ∧
        Desk.Cascading team (s.store.activeMembers team) now (s.store.switchOff team now) []
          t.store ∧
        t.generator.draws <:+ (s.scene x.cue).generator.draws) fun _ _ => False := by
    rw [hx.action]
    refine ends_map.2 (ends_map.2 ((Desk.deactivateTeam_ends (s := s.scene x.cue) hs).mono ?_ ?_))
    · rintro d t ⟨-, hcount, hc, hsuf⟩
      exact ⟨d, _, rfl, hcount, hc, hsuf⟩
    · rintro e t ⟨-, hnone⟩
      rw [show s.store.team? team = none from hnone hcalm] at ht
      cases ht
  rcases take_of_ends hends with ⟨_, hr, d, now, rfl, hcount, hc, hsuf⟩ | ⟨_, -, he⟩
  · exact ⟨d, now, hr, hcount, hc, hcalm.2.suffix hsuf⟩
  · exact he.elim

/-- **Teams switched off in turn.** -/
theorem deactivated_along {teams : List String} {steps : List Step} (hs : s.store.Sound)
    (hd : Draw.NeverFail s.draws) (hx : List.Forall₂ Step.Deactivates teams steps)
    (ht : ∀ n ∈ teams, (s.store.team? n).isSome) :
    ∃ counts, s.replies steps = counts.map deactivation ∧
      Store.Deactivated teams s.store (s.along steps).store counts := by
  induction hx generalizing s with
  | nil => exact ⟨[], rfl, .nil⟩
  | @cons team x teams steps hx _ ih =>
    obtain ⟨d, now, hr, hcount, hc, hdraws⟩ :=
      next_deactivated hs hd hx (ht team List.mem_cons_self)
    have hoff : (s.store.switchOff team now).Sound := (Store.Edit.switchOff).sound hs
    have hsound : (s.next x).store.Sound := (hc.run.edits hs.gone_switchOff).sound hoff
    have hteams : ∀ n ∈ teams, ((s.next x).store.team? n).isSome := by
      intro n hn
      rw [Store.team?, hc.run.teams_eq]
      exact ht n (List.mem_cons_of_mem _ hn)
    obtain ⟨counts, hrs, h⟩ := ih hsound hdraws hteams
    refine ⟨d :: counts, ?_, h.cons hs hcount hc⟩
    rw [replies, hr, hrs, List.map_cons]

/-- **The order of deactivations does not matter.**  Two runs switch off the same teams
    of a reachable session, each in an order of its own, with repetitions, and with
    draws of its own that do not fail.  Both answer every step, and they agree on who
    is active, on the total of users switched off, and on the reviewers of merged
    pull requests; and an open pull request has in both as many reviewers as remain,
    and as many more as there are places to take and users to take them. -/
theorem Reachable.deactivations_agree {teams₁ teams₂ : List String} {steps₁ steps₂ : List Step}
    {draws₁ draws₂ : List Draw} (h : s.Reachable engine) (hsame : ∀ n, n ∈ teams₁ ↔ n ∈ teams₂)
    (hteams : ∀ n ∈ teams₁, (s.store.team? n).isSome)
    (h₁ : List.Forall₂ Step.Deactivates teams₁ steps₁)
    (h₂ : List.Forall₂ Step.Deactivates teams₂ steps₂)
    (hd₁ : Draw.NeverFail draws₁) (hd₂ : Draw.NeverFail draws₂) :
    let s₁ := { s with draws := draws₁ }
    let s₂ := { s with draws := draws₂ }
    let t₁ := (s₁.along steps₁).store
    let t₂ := (s₂.along steps₂).store
    let gone := s.store.activeIn teams₁
    (∃ counts₁ counts₂ : List Deactivation, s₁.replies steps₁ = counts₁.map deactivation ∧
      s₂.replies steps₂ = counts₂.map deactivation ∧
      (counts₁.map Deactivation.deactivated).sum = (counts₂.map Deactivation.deactivated).sum) ∧
    t₁.users.map (fun u => (u.id, u.active)) = t₂.users.map (fun u => (u.id, u.active)) ∧
    (t₁.pulls = s.store.pulls ∧ t₂.pulls = s.store.pulls) ∧
    ∀ p ∈ s.store.pulls,
      (p.status = .merged → t₁.reviewers p.id = t₂.reviewers p.id) ∧
      (p.status = .opened → (t₁.reviewers p.id).length = (t₂.reviewers p.id).length ∧
        (t₁.reviewers p.id).length = (s.store.kept gone p).length +
          min (s.store.slots gone p).length (s.store.spares gone p).length) := by
  intro s₁ s₂ t₁ t₂ gone
  have hgone : s.store.activeIn teams₂ = gone :=
    Store.activeIn_congr fun n => (hsame n).symm
  have hteams' : ∀ n ∈ teams₂, (s.store.team? n).isSome := fun n hn => hteams n ((hsame n).2 hn)
  obtain ⟨counts₁, hr₁, ⟨htotal₁, hflags₁, hpulls₁, hmerged₁, hopened₁⟩⟩ :=
    deactivated_along (s := s₁) h.sound hd₁ h₁ hteams
  obtain ⟨counts₂, hr₂, ⟨htotal₂, hflags₂, hpulls₂, hmerged₂, hopened₂⟩⟩ :=
    deactivated_along (s := s₂) h.sound hd₂ h₂ hteams'
  refine ⟨⟨counts₁, counts₂, hr₁, hr₂, ?_⟩, ?_, ⟨hpulls₁, hpulls₂⟩, fun p hp =>
    ⟨fun hm => ?_, fun ho => ⟨?_, hopened₁ p hp ho⟩⟩⟩
  · rw [htotal₁, htotal₂]
    exact congrArg List.length hgone.symm
  · rw [hflags₁, hflags₂]
    exact List.map_congr_left fun u _ => by simp only [hsame]
  · exact (hmerged₁ p hp hm).trans (hmerged₂ p hp hm).symm
  · rw [hopened₁ p hp ho, hopened₂ p hp ho]
    exact congrArg (s.store.staffing · p) hgone.symm

theorem deactivations_agree_opening :
    let s := blank.along opening
    let s₁ := { s with draws := [.index 1] }
    let s₂ := { s with draws := [.index 4, .index 2] }
    let t₁ := (s₁.along (["core", "ops"].map Step.deactivate)).store
    let t₂ := (s₂.along (["ops", "core", "ops"].map Step.deactivate)).store
    t₁.users.map (fun u => (u.id, u.active)) = t₂.users.map (fun u => (u.id, u.active)) ∧
      (t₁.reviewers "p1").length = (t₂.reviewers "p1").length := by
  have hsame : ∀ n, n ∈ ["core", "ops"] ↔ n ∈ ["ops", "core", "ops"] := by
    intro n
    simp only [List.mem_cons, List.not_mem_nil]
    tauto
  have hteams : ∀ n ∈ ["core", "ops"], ((blank.along opening).store.team? n).isSome := by
    decide +kernel
  have hpull : ⟨"p1", "Title", "ann", .opened, ⟨0⟩, none⟩ ∈ (blank.along opening).store.pulls := by
    decide +kernel
  have hd₁ : Draw.NeverFail [.index 1] := by simp [Draw.NeverFail]
  have hd₂ : Draw.NeverFail [.index 4, .index 2] := by simp [Draw.NeverFail]
  obtain ⟨-, hflags, -, hpulls⟩ := reachable_opening.deactivations_agree hsame hteams
    Step.deactivates_map Step.deactivates_map hd₁ hd₂
  exact ⟨hflags, ((hpulls _ hpull).2 rfl).1⟩

end Session

end ReviewRota
