/-
  ReviewRota — the history read backwards.

  A report shows the history of a pull request with the newest entry first.  Entries of one
  time, as the deactivation of a team leaves them, stand in the reverse of the order in which
  they were written.  So whoever takes the entries back one by one, from the reviewers that
  the report shows, ends with those that the answer to the opening named.

  * `Handover.revert`: the reviewers before an entry, and `Handover.revert_apply`: it undoes
    the entry;
  * `Retraces`: entries that can all be taken back, and `Replays.retraces`: whatever replays
    can be, from its end;
  * `Store.handovers_eq`: what a report shows of a history whose times are in order;
  * `Session.retraced_along`: what reports show after any run whose clock never goes back.
-/
import ReviewRota.Proofs.Audit
import ReviewRota.Proofs.Timeline
import ReviewRota.Proofs.Views

namespace ReviewRota

variable {author : String} {start mid last : Finset String} {entries : List Handover}
  {h : Handover}

/-- The reviewers before an entry of the history: whoever has joined is gone, and whoever
    has left is back. -/
def Handover.revert (h : Handover) (reviewers : Finset String) : Finset String :=
  insert h.leaving (reviewers \ h.joining.toFinset)

/-- The entries, newest first, lead back from some reviewers to some others: whoever has
    joined is among the reviewers then, and whoever comes back is not. -/
def Retraces : Finset String → List Handover → Finset String → Prop
  | last, [], start => last = start
  | last, h :: rest, start => (∀ j ∈ h.joining, j ∈ last) ∧
      h.leaving ∉ last \ h.joining.toFinset ∧ Retraces (h.revert last) rest start

/-! ## Taking back what was replayed -/

theorem Handover.apply_sdiff (hj : ∀ j ∈ h.joining, j ∉ start) :
    h.apply start \ h.joining.toFinset = start.erase h.leaving := by
  ext r
  simp only [apply, Finset.mem_sdiff, Finset.mem_union, Finset.mem_erase, Option.mem_toFinset]
  constructor
  · rintro ⟨hr | hr, hnew⟩
    · exact hr
    · exact absurd hr hnew
  · rintro ⟨hne, hr⟩
    exact ⟨.inl ⟨hne, hr⟩, fun hnew => hj r hnew hr⟩

theorem Handover.revert_apply (hl : h.leaving ∈ start) (hj : ∀ j ∈ h.joining, j ∉ start) :
    h.revert (h.apply start) = start := by
  rw [revert, apply_sdiff hj, Finset.insert_erase hl]

/-- One more entry is taken back at the end. -/
theorem Retraces.snoc (hr : Retraces last entries mid) (hj : ∀ j ∈ h.joining, j ∈ mid)
    (hl : h.leaving ∉ mid \ h.joining.toFinset) :
    Retraces last (entries ++ [h]) (h.revert mid) := by
  induction entries generalizing last with
  | nil =>
    have he : last = mid := hr
    subst he
    exact ⟨hj, hl, rfl⟩
  | cons e entries ih =>
    obtain ⟨hj', hl', hr⟩ := hr
    exact ⟨hj', hl', ih hr⟩

/-- **Whatever replays can be taken back.**  The oldest entry is taken back last, from the
    reviewers that it has left. -/
theorem Replays.retraces (hr : Replays author start entries last) :
    Retraces last entries.reverse start := by
  induction entries generalizing start with
  | nil => exact hr.symm
  | cons h entries ih =>
    obtain ⟨hl, hj, hr⟩ := hr
    have hfresh : ∀ j ∈ h.joining, j ∉ start := fun j hm => (hj j hm).1
    have hback : h.revert (h.apply start) = start := Handover.revert_apply hl hfresh
    have hrest : Retraces last entries.reverse (h.apply start) := ih hr
    rw [List.reverse_cons, ← hback]
    refine hrest.snoc (fun j hm => ?_) ?_
    · exact Finset.mem_union_right _ (Option.mem_toFinset.2 hm)
    · rw [Handover.apply_sdiff hfresh]
      exact Finset.notMem_erase _ _

/-! ## What is shown -/

/-- A history whose times are in order is shown backwards, also among entries of one time. -/
theorem Store.handovers_eq {s : Store} {pull : String}
    (h : (s.trail pull).Pairwise fun e e' => e.changedAt ≤ e'.changedAt) :
    s.handovers pull = (s.trail pull).reverse :=
  sortBy_eq_self (List.pairwise_reverse.2 (h.imp decide_eq_true))

/-- A report counts the entries that it shows. -/
theorem PullReport.transfers (r : PullReport) :
    r.datum.get? "transfer_cnt" = some (.int r.handovers.length) := rfl

namespace Session

open Store

variable {engine : Settings.Engine} {start : Session} {steps : List Step} {p : PullRequest}
  {y : Step}

/-- **The history can be undone.**  After a run from an empty store whose clock never goes
    back, the report of every pull request shows its history exactly backwards, with the
    number of the entries; and taking these back one by one, from the reviewers that it
    shows, leads to those that were answered in the step which opened the pull request. -/
theorem retraced_along (hs : start.store = {}) (hsteps : ∀ x ∈ steps, Step.Regular engine x)
    (hforward : start.Forward steps) (hp : p ∈ (start.along steps).store.pulls)
    (hy : y.Asks (start.along steps) (.pullReport (.text p.id)))
    (hspared : (start.along steps).Spared y) :
    ∃ r, ((start.along steps).take y).1 = .ok (.answer (.report r)) ∧ r.id = p.id ∧
      r.reviewers = (start.along steps).store.reviewers p.id ∧
      r.handovers = ((start.along steps).store.trail p.id).reverse ∧
      r.datum.get? "transfer_cnt" = some (.int r.handovers.length) ∧
      ∃ before x after view, steps = before ++ x :: after ∧
        (start.along before).store.pull? p.id = none ∧
        Created ((start.along before).conditions engine x.cue) ((start.along before).scene x.cue)
          view ((start.along before).next x).store ∧
        view.id = p.id ∧ Retraces r.reviewers.toFinset r.handovers view.reviewers.toFinset := by
  have hsound : start.store.Sound := hs ▸ .empty
  have hnone : ∀ q ∈ start.store.pulls, Dated start.clock start.store q := by
    rw [hs]
    exact nofun
  have hrow : (start.along steps).store.pull? p.id = some p :=
    (along_sound hsteps hsound).pull?_eq hp
  have hback : (start.along steps).store.handovers p.id =
      ((start.along steps).store.trail p.id).reverse :=
    handovers_eq (dated_along hsteps hforward hsound hnone p hp).ordered
  obtain ⟨_, hreply, rfl⟩ := take_answered hy hspared (Desk.pullReport_answer hrow)
  refine ⟨_, hreply, rfl, rfl, hback, PullReport.transfers _, ?_⟩
  rcases opening_along hsteps hsound hp with
    ⟨q, hq, -⟩ | ⟨before, x, after, view, rfl, ho, hcreated, hcourse⟩
  · rw [hs] at hq
    cases hq
  · obtain ⟨-, hbefore⟩ := sound_before hsteps hsound
    have hid : p.id = view.id := hcourse.id_eq
    have hreplays := hcourse.replays (ho.replays hbefore)
    refine ⟨before, x, after, view, rfl, hid ▸ ho.fresh, hcreated, hid.symm, ?_⟩
    exact hback ▸ hreplays.retraces

/-- Three entries of one time: a reviewer is replaced, and then the team of both reviewers is
    switched off. -/
theorem retraced_along_closing :
    let s := blank.along (opening ++ closing)
    settled ∈ s.store.pulls ∧ blank.Forward (opening ++ closing) ∧
    ∃ r, (s.take { action := .desk (.pullReport (.text "p1")) }).1 = .ok (.answer (.report r)) ∧
      r.reviewers = ["eve", "fay"] ∧
      r.handovers = [⟨"p1", "dan", some "fay", ⟨0⟩⟩, ⟨"p1", "cyd", some "eve", ⟨0⟩⟩,
        ⟨"p1", "bob", some "dan", ⟨0⟩⟩] ∧
      r.datum.get? "transfer_cnt" = some (.int r.handovers.length) ∧
      ∃ before x after view, opening ++ closing = before ++ x :: after ∧
        Created ((blank.along before).conditions {} x.cue) ((blank.along before).scene x.cue) view
          ((blank.along before).next x).store ∧
        view.id = "p1" ∧ Retraces {"eve", "fay"} r.handovers view.reviewers.toFinset := by
  have hregular : ∀ x ∈ opening ++ closing, Step.Regular {} x := by decide +kernel
  have hforward : blank.Forward (opening ++ closing) := by decide +kernel
  have hsettled : settled ∈ (blank.along (opening ++ closing)).store.pulls := by decide +kernel
  have hreviewers : (blank.along (opening ++ closing)).store.reviewers "p1" = ["eve", "fay"] := by
    decide +kernel
  have htrail : (blank.along (opening ++ closing)).store.trail "p1" =
      [⟨"p1", "bob", some "dan", ⟨0⟩⟩, ⟨"p1", "cyd", some "eve", ⟨0⟩⟩,
        ⟨"p1", "dan", some "fay", ⟨0⟩⟩] := by
    decide +kernel
  obtain ⟨r, hreply, -, hr, hback, hcount, hopened⟩ :=
    retraced_along (y := { action := .desk (.pullReport (.text "p1")) }) rfl hregular hforward
      hsettled (.desk rfl) (spared_of_fault rfl)
  rw [show settled.id = "p1" from rfl, hreviewers] at hr
  rw [show settled.id = "p1" from rfl, htrail] at hback
  obtain ⟨before, x, after, view, hsteps, -, hcreated, hid, hstart⟩ := hopened
  rw [hr] at hstart
  exact ⟨hsettled, hforward, r, hreply, hr, hback, hcount, before, x, after, view, hsteps, hcreated,
    hid, hstart⟩

end Session

end ReviewRota
