/-
  ReviewRota — the times of a pull request.

  Times are written in three tables: the pull request has that of its opening and perhaps
  that of its merge, each review has one, and so has each entry of the history.  The time
  of a review is that of the last entry by which the reviewer has joined, or that of the
  opening, whatever the clock did in between.  If the clock never goes back, the times of
  a pull request follow each other as the events did.

  * `arrival?`: when a user was last entered as a new reviewer; `Store.since`: since when
    the history says that a user reviews a pull request;
  * `Store.Timed`: every review has that time; `Turn.timed` keeps it, at any time;
  * `Store.Dated`: the times of a pull request are in order up to now; `Turn.dated` keeps
    it, later on;
  * `Session.Forward`: a run in which the clock never goes back;
  * `Session.timeline_along`: the times that a run leaves.
-/
import ReviewRota.Proofs.Runs

namespace ReviewRota

instance : Preorder Moment where
  le := (· ≤ ·)
  lt := (· < ·)
  le_refl a := Int.le_refl a.micros
  le_trans _ _ _ := Int.le_trans
  lt_iff_le_not_ge a b := lt_iff_le_not_ge (a := a.micros) (b := b.micros)

/-- The time of the last entry by which the user has joined. -/
def arrival? (entries : List Handover) (user : String) : Option Moment :=
  (entries.reverse.find? fun h => h.joining = some user).map Handover.changedAt

theorem arrival?_snoc {entries : List Handover} {h : Handover} {user : String} :
    arrival? (entries ++ [h]) user =
      if h.joining = some user then some h.changedAt else arrival? entries user := by
  unfold arrival?
  rw [List.reverse_append, List.reverse_singleton, List.singleton_append]
  by_cases hj : h.joining = some user <;> simp [hj]

namespace Store

variable {s t : Store} {p q : PullRequest} {now now' : Moment} {most : Int} {view : PullView}

/-! ## Since when -/

/-- The time since which a user reviews a pull request, as its history tells. -/
def since (s : Store) (p : PullRequest) (user : String) : Moment :=
  (arrival? (s.trail p.id) user).getD p.createdAt

/-- Every review of the pull request has the time that its history tells. -/
def Timed (s : Store) (p : PullRequest) : Prop :=
  ∀ a ∈ s.seats p.id, a.assignedAt = s.since p a.reviewer

theorem mem_seats {a : Assignment} {pull : String} :
    a ∈ s.seats pull ↔ a ∈ s.assignments ∧ a.pull = pull := by
  simp [seats, List.mem_filter]

theorem mem_seats_handOver {leaving : String} {joining : Option String} {a : Assignment} :
    a ∈ (s.handOver p.id leaving joining now).seats p.id ↔
      (a ∈ s.seats p.id ∧ a.reviewer ≠ leaving) ∨ ∃ j ∈ joining, a = ⟨p.id, j, now⟩ := by
  cases joining with
  | none =>
    show a ∈ (s.unassign p.id leaving).seats p.id ↔ _
    simp [seats_unassign_self]
  | some j =>
    show a ∈ ((s.unassign p.id leaving).seat p.id j now).seats p.id ↔ _
    simp [seats_seat_self, seats_unassign_self]

theorem Opening.timed (h : Opening most now s view t) (hs : s.Sound) : Timed t view.row := by
  obtain ⟨hf, hv, -, rfl⟩ := h
  intro a ha
  have htrail : (s.opened view.row view.reviewers now).trail view.id = [] := hs.trail_eq_nil hf
  have hseats : (s.opened view.row view.reviewers now).seats view.id =
      s.seats view.id ++ view.reviewers.map (⟨view.id, ·, now⟩) := seats_opened_self
  rw [show view.row.id = view.id from rfl, hseats, hs.seats_eq_nil hf, List.nil_append] at ha
  obtain ⟨r, -, rfl⟩ := List.mem_map.1 ha
  rw [since, show view.row.id = view.id from rfl, htrail, hv]
  rfl

/-- Whoever joins does so at the time of the entry; nobody else is named by it, since
    those who stay have been reviewers before. -/
theorem Turn.timed (h : Turn now s t p q) (hp : Timed s p) : Timed t q := by
  cases h with
  | kept hseats htrail =>
    intro a ha
    rw [hseats] at ha
    rw [since, htrail]
    exact hp a ha
  | merged _ hseats htrail =>
    intro a ha
    change a ∈ t.seats p.id at ha
    rw [hseats] at ha
    show a.assignedAt = (arrival? (t.trail p.id) a.reviewer).getD p.createdAt
    rw [htrail]
    exact hp a ha
  | @passed leaving joining _ _ hj hseats htrail =>
    intro a ha
    rw [hseats] at ha
    rw [since, htrail, trail_handOver_self, arrival?_snoc]
    rcases mem_seats_handOver.1 ha with ⟨ha, -⟩ | ⟨j, rfl, rfl⟩
    · have hin : a.reviewer ∈ s.reviewers p.id :=
        reviewers_perm.mem_iff.2 (List.mem_map_of_mem ha)
      have hne : joining ≠ some a.reviewer := fun he => (hj a.reviewer he).fresh hin
      rw [if_neg hne]
      exact hp a ha
    · rw [if_pos rfl]
      rfl

theorem Course.timed {a b : Store × PullRequest} (h : Course a b) (ha : Timed a.1 a.2) :
    Timed b.1 b.2 := by
  induction h with
  | refl => exact ha
  | tail _ hn ih =>
    obtain ⟨_, hn⟩ := hn
    exact hn.timed ih

/-! ## In order -/

/-- The times of a pull request follow each other, and none of them is still to come. -/
structure Dated (now : Moment) (s : Store) (p : PullRequest) : Prop where
  opened : p.createdAt ≤ now
  seated : ∀ a ∈ s.seats p.id, a.assignedAt ≤ now
  recorded : ∀ h ∈ s.trail p.id, p.createdAt ≤ h.changedAt ∧ h.changedAt ≤ now
  ordered : (s.trail p.id).Pairwise fun h h' => h.changedAt ≤ h'.changedAt
  merged : p.status = .merged → ∃ m, p.mergedAt = some m ∧
    (∀ h ∈ s.trail p.id, h.changedAt ≤ m) ∧ ∀ a ∈ s.seats p.id, a.assignedAt ≤ m

/-- What is in order stays so while nothing happens. -/
theorem Dated.later (h : Dated now s p) (hle : now ≤ now') : Dated now' s p where
  opened := h.opened.trans hle
  seated a ha := (h.seated a ha).trans hle
  recorded e he := ⟨(h.recorded e he).1, (h.recorded e he).2.trans hle⟩
  ordered := h.ordered
  merged := h.merged

theorem Opening.dated (h : Opening most now s view t) (hs : s.Sound) : Dated now t view.row := by
  obtain ⟨hf, hv, -, rfl⟩ := h
  have htrail : (s.opened view.row view.reviewers now).trail view.row.id = [] :=
    hs.trail_eq_nil hf
  have hseats : (s.opened view.row view.reviewers now).seats view.row.id =
      s.seats view.row.id ++ view.reviewers.map (⟨view.row.id, ·, now⟩) := seats_opened_self
  refine ⟨?_, fun a ha => ?_, ?_, ?_, fun hm => ?_⟩
  · rw [hv]
    exact le_rfl
  · rw [hseats, show view.row.id = view.id from rfl, hs.seats_eq_nil hf, List.nil_append] at ha
    obtain ⟨r, -, rfl⟩ := List.mem_map.1 ha
    exact le_rfl
  · rw [htrail]
    exact nofun
  · rw [htrail]
    exact .nil
  · rw [hv] at hm
    cases hm

/-- **What a turn adds comes last.** -/
theorem Turn.dated (h : Turn now s t p q) (hp : Dated now s p) : Dated now t q := by
  obtain ⟨hopened, hseated, hrecorded, hordered, hmerged⟩ := hp
  cases h with
  | kept hseats htrail =>
    rw [← hseats] at hseated hmerged
    rw [← htrail] at hrecorded hordered hmerged
    exact ⟨hopened, hseated, hrecorded, hordered, hmerged⟩
  | merged _ hseats htrail =>
    rw [← hseats] at hseated
    rw [← htrail] at hrecorded hordered
    exact ⟨hopened, hseated, hrecorded, hordered,
      fun _ => ⟨now, rfl, fun e he => (hrecorded e he).2, hseated⟩⟩
  | @passed leaving joining ho _ _ hseats htrail =>
    rw [trail_handOver_self] at htrail
    refine ⟨hopened, fun a ha => ?_, fun e he => ?_, ?_, fun hm => ?_⟩
    · rw [hseats] at ha
      rcases mem_seats_handOver.1 ha with ⟨ha, -⟩ | ⟨j, -, rfl⟩
      · exact hseated a ha
      · exact le_rfl
    · rw [htrail] at he
      rcases List.mem_append.1 he with he | he
      · exact hrecorded e he
      · rw [List.mem_singleton.1 he]
        exact ⟨hopened, le_rfl⟩
    · rw [htrail]
      refine List.pairwise_append.2 ⟨hordered, List.pairwise_singleton _ _, fun e he e' he' => ?_⟩
      rw [List.mem_singleton.1 he']
      exact (hrecorded e he).2
    · rw [ho] at hm
      cases hm

/-- After an edit, a pull request is what a turn has made of it. -/
theorem Edit.turned (h : Edit now s t) (hs : s.Sound) (hq : q ∈ t.pulls) :
    ∃ p ∈ s.pulls, Turn now s t p q := by
  obtain ⟨p, hp, he⟩ := List.mem_map.1 (h.pull_ids ▸ List.mem_map_of_mem hq)
  obtain ⟨r, hr, hn⟩ := h.turn hs hp
  obtain rfl := (h.sound hs).pull_eq hr hq (hn.id_eq.trans he)
  exact ⟨p, hp, hn⟩

theorem Edits.dated (h : Edits now s t) (hs : s.Sound) (hd : ∀ p ∈ s.pulls, Dated now s p) :
    ∀ q ∈ t.pulls, Dated now t q := by
  induction h with
  | refl => exact hd
  | tail h he ih =>
    intro q hq
    obtain ⟨p, hp, hn⟩ := he.turned (Edits.sound h hs) hq
    exact hn.dated (ih p hp)

end Store

namespace Session

open Store

variable {engine : Settings.Engine} {s start : Session} {x : Step} {steps : List Step}

/-- The clock never goes back from one step to the next. -/
def Forward (s : Session) : List Step → Prop
  | [] => True
  | x :: steps => s.clock ≤ (s.next x).clock ∧ (s.next x).Forward steps

instance decidableForward (s : Session) : (steps : List Step) → Decidable (s.Forward steps)
  | [] => .isTrue trivial
  | x :: steps =>
    have := (s.next x).decidableForward steps
    inferInstanceAs (Decidable (s.clock ≤ (s.next x).clock ∧ (s.next x).Forward steps))

/-- A step that does not set the clock back leaves all times in order. -/
theorem next_dated (hx : x.Regular engine) (hs : s.store.Sound)
    (hle : s.clock ≤ (s.next x).clock) (hd : ∀ p ∈ s.store.pulls, Dated s.clock s.store p) :
    ∀ q ∈ (s.next x).store.pulls, Dated (s.next x).clock (s.next x).store q := by
  have hclock : (s.conditions engine x.cue).now = (s.next x).clock := rfl
  have hbefore : ∀ p ∈ s.store.pulls, Dated (s.next x).clock s.store p :=
    fun p hp => (hd p hp).later hle
  rcases next_effect hx hs with he | ⟨view, ho, -⟩
  · exact (hclock ▸ he).dated hs hbefore
  · intro q hq
    rw [hclock] at ho
    have hq' := hq
    rw [ho.result] at hq'
    rcases List.mem_append.1 hq' with hq' | hq'
    · exact (ho.turn hq').2.dated (hbefore q hq')
    · obtain rfl := List.mem_singleton.1 hq'
      exact ho.dated hs

theorem dated_along (h : ∀ x ∈ steps, Step.Regular engine x) (hf : s.Forward steps)
    (hs : s.store.Sound) (hd : ∀ p ∈ s.store.pulls, Dated s.clock s.store p) :
    ∀ q ∈ (s.along steps).store.pulls, Dated (s.along steps).clock (s.along steps).store q := by
  induction steps generalizing s with
  | nil => exact hd
  | cons x steps ih =>
    have hx := h x List.mem_cons_self
    obtain ⟨hle, hrest⟩ := hf
    exact ih (fun y hy => h y (List.mem_cons_of_mem _ hy)) hrest (next_sound hx hs)
      (next_dated hx hs hle hd)

/-- **The times of a pull request.**  In a run from an empty store, whatever the clock
    does, the time of a review is that of the last entry of the history by which its
    reviewer has joined, or else that of the opening.  If the clock never goes back, no
    entry is older than the pull request or than an entry before it, and the merge is at
    least as late as all that went before. -/
theorem timeline_along (hs : start.store = {}) (hsteps : ∀ x ∈ steps, Step.Regular engine x) :
    let t := (start.along steps).store
    (∀ a ∈ t.assignments, ∃ p ∈ t.pulls, p.id = a.pull ∧
      a.assignedAt = (arrival? (t.trail p.id) a.reviewer).getD p.createdAt) ∧
    (start.Forward steps → ∀ p ∈ t.pulls,
      (∀ h ∈ t.trail p.id, p.createdAt ≤ h.changedAt) ∧
      ((t.trail p.id).Pairwise fun h h' => h.changedAt ≤ h'.changedAt) ∧
      (p.status = .merged → ∃ m, p.mergedAt = some m ∧
        (∀ h ∈ t.trail p.id, h.changedAt ≤ m) ∧ ∀ a ∈ t.seats p.id, a.assignedAt ≤ m)) := by
  have hreachable : (start.along steps).Reachable engine := ⟨start, hs, steps, hsteps, rfl⟩
  have hsound : start.store.Sound := hs ▸ .empty
  refine ⟨fun a ha => ?_, fun hf p hp => ?_⟩
  · obtain ⟨p, hp, he⟩ := hreachable.sound.seated a ha
    obtain ⟨_, before, _, after, hbefore, ho, hc⟩ := hreachable.opening hp
    exact ⟨p, hp, he, hc.timed (ho.timed hbefore) a (mem_seats.2 ⟨ha, he.symm⟩)⟩
  · have hnone : ∀ p ∈ start.store.pulls, Dated start.clock start.store p := by
      rw [hs]
      exact nofun
    obtain ⟨-, -, hrecorded, hordered, hmerged⟩ := dated_along hsteps hf hsound hnone p hp
    exact ⟨fun h hh => (hrecorded h hh).1, hordered, hmerged⟩

/-- Time passes before the team of the author is switched off, and before the merge. -/
def pacing : List Step :=
  [{ cue := { advance := .ofNat 1 }, action := .service (.deactivateTeam (.text "core")) },
    { cue := { advance := .ofNat 2 }, action := .service (.merge (.text "p1")) }]

theorem timeline_along_pacing :
    let t := (blank.along (opening ++ pacing)).store
    (t.assignments.map fun a => (a.reviewer, a.assignedAt)) =
        [("eve", ⟨1000000⟩), ("fay", ⟨1000000⟩)] ∧
      (t.pulls.map PullRequest.mergedAt) = [some ⟨3000000⟩] ∧
      (∀ a ∈ t.assignments, ∃ p ∈ t.pulls, p.id = a.pull ∧
        a.assignedAt = (arrival? (t.trail p.id) a.reviewer).getD p.createdAt) ∧
      ∀ p ∈ t.pulls, p.status = .merged → ∃ m, p.mergedAt = some m ∧
        (∀ h ∈ t.trail p.id, h.changedAt ≤ m) ∧ ∀ a ∈ t.seats p.id, a.assignedAt ≤ m := by
  have hregular : ∀ x ∈ opening ++ pacing, Step.Regular {} x := by decide +kernel
  have hforward : blank.Forward (opening ++ pacing) := by decide +kernel
  have hempty : blank.store = {} := rfl
  obtain ⟨hsince, horder⟩ := timeline_along hempty hregular
  exact ⟨by decide +kernel, by decide +kernel, hsince, fun p hp => (horder hforward p hp).2.2⟩

end Session

end ReviewRota
