/-
  ReviewRota — the history as an audit.

  The history of a pull request tells who reviews it: whoever replays its entries,
  from the reviewers that the answer to the opening named, ends with those who
  review it now.

  * `Replays`: the entries of a history lead from one set of reviewers to another,
    and none of them is odd;
  * `Replays.snoc`: one more entry at the end;
  * `Turn.replays`: every turn of a pull request keeps its reviewers and its history
    in step;
  * `Session.replay_along`: after any run, the history of every pull request replays,
    and no step of the run has changed what was written before.
-/
import ReviewRota.Proofs.Runs

namespace ReviewRota

/-- The reviewers after an entry of the history: one has left, and another may have
    joined. -/
def Handover.apply (h : Handover) (reviewers : Finset String) : Finset String :=
  reviewers.erase h.leaving ∪ h.joining.toFinset

/-- The entries, oldest first, lead from some reviewers to some others: whoever leaves
    is among the reviewers then, and whoever joins is not, and is not the author. -/
def Replays (author : String) : Finset String → List Handover → Finset String → Prop
  | start, [], last => start = last
  | start, h :: rest, last => h.leaving ∈ start ∧ (∀ j ∈ h.joining, j ∉ start ∧ j ≠ author) ∧
      Replays author (h.apply start) rest last

variable {author : String} {start last : Finset String} {entries : List Handover}

theorem Replays.snoc {h : Handover} (hr : Replays author start entries last)
    (hl : h.leaving ∈ last) (hj : ∀ j ∈ h.joining, j ∉ last ∧ j ≠ author) :
    Replays author start (entries ++ [h]) (h.apply last) := by
  induction entries generalizing start with
  | nil =>
    have he : start = last := hr
    subst he
    exact ⟨hl, hj, rfl⟩
  | cons e entries ih =>
    obtain ⟨hl', hj', hr⟩ := hr
    exact ⟨hl', hj', ih hr⟩

namespace Store

variable {s t : Store} {p q : PullRequest} {now : Moment} {most : Int} {view : PullView}

/-- Reviewers and history of a new pull request are in step. -/
theorem Opening.replays (h : Opening most now s view t) (hs : s.Sound) :
    Replays view.author view.reviewers.toFinset (t.trail view.id)
      (t.reviewers view.id).toFinset := by
  obtain ⟨hf, -, -, rfl⟩ := h
  have htrail : (s.opened view.row view.reviewers now).trail view.id = [] := hs.trail_eq_nil hf
  have hperm : ((s.opened view.row view.reviewers now).reviewers view.id).Perm view.reviewers :=
    reviewers_opened_perm (hs.seats_eq_nil hf)
  rw [htrail, List.toFinset_eq_of_perm _ _ hperm]
  rfl

theorem toFinset_reviewers_handOver {leaving : String} {joining : Option String} :
    ((s.handOver p.id leaving joining now).reviewers p.id).toFinset =
      Handover.apply ⟨p.id, leaving, joining, now⟩ (s.reviewers p.id).toFinset := by
  ext r
  simp only [List.mem_toFinset, mem_reviewers_handOver, Handover.apply, Finset.mem_union,
    Finset.mem_erase, Option.mem_toFinset, Option.mem_def]
  tauto

theorem Turn.replays (h : Turn now s t p q)
    (hr : Replays p.author start (s.trail p.id) (s.reviewers p.id).toFinset) :
    Replays q.author start (t.trail q.id) (t.reviewers q.id).toFinset := by
  cases h with
  | kept hseats htrail =>
    rw [htrail, reviewers_congr hseats]
    exact hr
  | merged _ hseats htrail =>
    show Replays p.author start (t.trail p.id) (t.reviewers p.id).toFinset
    rw [htrail, reviewers_congr hseats]
    exact hr
  | passed _ hl hj hseats htrail =>
    rw [htrail, reviewers_congr hseats, trail_handOver_self, toFinset_reviewers_handOver]
    refine hr.snoc (List.mem_toFinset.2 hl) fun j h => ⟨fun hm => ?_, (hj j h).stranger⟩
    exact (hj j h).fresh (List.mem_toFinset.1 hm)

theorem Course.replays {a b : Store × PullRequest} (h : Course a b)
    (hr : Replays a.2.author start (a.1.trail a.2.id) (a.1.reviewers a.2.id).toFinset) :
    Replays b.2.author start (b.1.trail b.2.id) (b.1.reviewers b.2.id).toFinset := by
  induction h with
  | refl => exact hr
  | tail _ hn ih =>
    obtain ⟨_, hn⟩ := hn
    exact hn.replays ih

end Store

namespace Session

variable {engine : Settings.Engine} {s : Session} {steps : List Step}

/-- **The history is an audit.**  In a run from an empty store, every step only adds
    to the history.  Every pull request was opened in one of the steps, and its
    history replays from the reviewers that were answered then to those that it has
    in the end. -/
theorem replay_along (hs : s.store = {}) (hsteps : ∀ x ∈ steps, Step.Regular engine x) :
    (∀ before x after, steps = before ++ x :: after →
      (s.along before).store.history <+: ((s.along before).next x).store.history) ∧
    ∀ p ∈ (s.along steps).store.pulls, ∃ before x after view, steps = before ++ x :: after ∧
      (s.along before).store.pull? p.id = none ∧
      Created ((s.along before).conditions engine x.cue) ((s.along before).scene x.cue) view
        ((s.along before).next x).store ∧
      view.id = p.id ∧
      Replays p.author view.reviewers.toFinset ((s.along steps).store.trail p.id)
        ((s.along steps).store.reviewers p.id).toFinset := by
  have hsound : s.store.Sound := hs ▸ .empty
  refine ⟨?_, fun p hp => ?_⟩
  · rintro before x after rfl
    obtain ⟨hx, h⟩ := sound_before hsteps hsound
    exact next_history_prefix hx h
  · rcases opening_along hsteps hsound hp with
      ⟨q, hq, -⟩ | ⟨before, x, after, view, rfl, ho, hv, hc⟩
    · rw [hs] at hq
      cases hq
    · have hid : p.id = view.id := hc.id_eq
      obtain ⟨-, h⟩ := sound_before hsteps hsound
      exact ⟨before, x, after, view, rfl, hid ▸ ho.fresh, hv, hid.symm, hc.replays (ho.replays h)⟩

theorem replay_along_closing :
    let steps := opening ++ closing
    let s := (blank.along steps).store
    settled ∈ s.pulls ∧ ∃ before x after view, steps = before ++ x :: after ∧
      (blank.along before).store.pull? "p1" = none ∧
      Created ((blank.along before).conditions {} x.cue) ((blank.along before).scene x.cue) view
        ((blank.along before).next x).store ∧
      view.id = "p1" ∧ Replays "ann" view.reviewers.toFinset (s.trail "p1")
        (s.reviewers "p1").toFinset := by
  have hsteps : ∀ x ∈ opening ++ closing, Step.Regular {} x := by decide +kernel
  have hsettled : settled ∈ (blank.along (opening ++ closing)).store.pulls :=
    along_append ▸ settled_mem_closing
  exact ⟨hsettled, (replay_along rfl hsteps).2 settled hsettled⟩

end Session

end ReviewRota
