/-
  ReviewRota — summaries of parts.

  A window may be cut at a moment between its bounds, or by the status of the pull requests.
  Every pull request in the window is then in one of the parts and in no other, and so is
  every review.  All three lists of a summary go through one window, hence the counts of the
  whole are the sums of the counts of the parts.

  * `Window.Parts`: two windows share out what a third covers; `Window.parts_at` and
    `Window.parts_status` are the two cuts;
  * `Window.Parts.pullsIn_perm` and `Window.Parts.assignmentsIn_perm`: pull requests and
    reviews are shared out;
  * `Summary.Sums`: every count of a summary is the sum of those of two others;
  * `Session.Summarizes`: what a window is answered with, and
    `Session.Reachable.summaries_add`: how the answers add up.
-/
import ReviewRota.Proofs.Rankings
import ReviewRota.Proofs.Views

namespace ReviewRota

variable {α β : Type} {w w₁ w₂ : Window} {m : Moment}

/-! ## Lists in two parts -/

/-- Entries that pass a test, if two other tests share them out. -/
theorem filter_perm_append {p q r : α → Bool} {l : List α} (hor : ∀ a, p a = (q a || r a))
    (hapart : ∀ a, q a = true → r a = false) :
    (l.filter p).Perm (l.filter q ++ l.filter r) := by
  have hfirst : (l.filter p).filter q = l.filter q := by
    rw [List.filter_filter]
    refine List.filter_congr fun a _ => ?_
    rw [hor]
    cases q a <;> simp
  have hsecond : (l.filter p).filter (fun a => !q a) = l.filter r := by
    rw [List.filter_filter]
    refine List.filter_congr fun a _ => ?_
    rw [hor]
    cases hq : q a
    · simp
    · simp [hapart a hq]
  have hparts := List.filter_append_perm q (l.filter p)
  rw [hfirst, hsecond] at hparts
  exact hparts.symm

/-! ## Windows in two parts -/

/-- The two windows share out what the first covers. -/
structure Window.Parts (w w₁ w₂ : Window) : Prop where
  covers : ∀ p, w.Covers p ↔ w₁.Covers p ∨ w₂.Covers p
  apart : ∀ p, w₁.Covers p → ¬ w₂.Covers p

namespace Window

/-- A window is cut behind a moment between its bounds. -/
theorem parts_at (hsince : ∀ a ∈ w.since, a ≤ m) (hupTo : ∀ c ∈ w.upTo, m < c) :
    w.Parts { w with upTo := some m } { w with since := some (m.later 1) } := by
  have hnext : ∀ t : Moment, m.later 1 ≤ t ↔ m < t := fun _ => Int.add_one_le_iff
  constructor
  · intro p
    constructor
    · intro h
      by_cases hle : p.createdAt ≤ m
      · exact .inl ⟨h.since, fun t ht => Option.some.inj ht ▸ hle, h.status⟩
      · have hlt : m < p.createdAt := Int.not_le.1 hle
        exact .inr ⟨fun t ht => Option.some.inj ht ▸ (hnext _).2 hlt, h.upTo, h.status⟩
    · rintro (h | h)
      · have hle : p.createdAt ≤ m := h.upTo m rfl
        exact ⟨h.since, fun c hc => Int.le_of_lt (Int.lt_of_le_of_lt hle (hupTo c hc)), h.status⟩
      · have hlt : m < p.createdAt := (hnext _).1 (h.since _ rfl)
        exact ⟨fun a ha => Int.le_of_lt (Int.lt_of_le_of_lt (hsince a ha) hlt), h.upTo, h.status⟩
  · intro p h₁ h₂
    have hle : p.createdAt ≤ m := h₁.upTo m rfl
    have hlt : m < p.createdAt := (hnext _).1 (h₂.since _ rfl)
    exact Int.not_lt.2 hle hlt

/-- A window for every status is cut into open and merged pull requests. -/
theorem parts_status (h : w.status = none) :
    w.Parts { w with status := some .opened } { w with status := some .merged } := by
  constructor
  · intro p
    constructor
    · intro hp
      cases hstatus : p.status with
      | opened => exact .inl ⟨hp.since, hp.upTo, fun t ht => Option.some.inj ht ▸ hstatus⟩
      | merged => exact .inr ⟨hp.since, hp.upTo, fun t ht => Option.some.inj ht ▸ hstatus⟩
    · rintro (hp | hp)
      all_goals
        refine ⟨hp.since, hp.upTo, ?_⟩
        rw [h]
        exact nofun
  · intro p h₁ h₂
    cases (h₁.status _ rfl).symm.trans (h₂.status _ rfl)

namespace Parts

variable {s : Store}

theorem admits (h : w.Parts w₁ w₂) (p : PullRequest) :
    w.admits p = (w₁.admits p || w₂.admits p) := by
  rw [Bool.eq_iff_iff, Bool.or_eq_true, admits_iff, admits_iff, admits_iff]
  exact h.covers p

theorem not_admits (h : w.Parts w₁ w₂) (p : PullRequest) (hp : w₁.admits p = true) :
    w₂.admits p = false := by
  refine Bool.eq_false_iff.2 fun hp' => ?_
  exact h.apart p (admits_iff.1 hp) (admits_iff.1 hp')

/-- Every pull request is in one part. -/
theorem pullsIn_perm (h : w.Parts w₁ w₂) : (s.pullsIn w).Perm (s.pullsIn w₁ ++ s.pullsIn w₂) := by
  simp only [Store.pullsIn_eq]
  exact filter_perm_append h.admits h.not_admits

/-- Every review is in one part. -/
theorem assignmentsIn_perm (h : w.Parts w₁ w₂) :
    (s.assignmentsIn w).Perm (s.assignmentsIn w₁ ++ s.assignmentsIn w₂) := by
  refine filter_perm_append (fun a => ?_) fun a ha => ?_
  · cases s.pull? a.pull with
    | none => rfl
    | some p => exact h.admits p
  · cases hp : s.pull? a.pull with
    | none => rfl
    | some p =>
      rw [hp] at ha
      exact h.not_admits p ha

end Parts

end Window

/-! ## Summaries in two parts -/

/-- Every count of the first summary is the sum of the counts of the two others. -/
structure Summary.Sums (v v₁ v₂ : Summary) : Prop where
  reviewers : ∀ r, countIn v.reviewers r = countIn v₁.reviewers r + countIn v₂.reviewers r
  statuses : ∀ t, countIn v.statuses t = countIn v₁.statuses t + countIn v₂.statuses t
  teams : ∀ t, countIn v.teams t = countIn v₁.teams t + countIn v₂.teams t

/-- A tally of two parts counts what both count. -/
theorem countIn_append [DecidableEq α] {keys keys₁ keys₂ : List α} {l l₁ l₂ : List (α × Nat)}
    (h : l.Perm (tally keys)) (h₁ : l₁.Perm (tally keys₁)) (h₂ : l₂.Perm (tally keys₂))
    (hkeys : keys.Perm (keys₁ ++ keys₂)) (k : α) :
    countIn l k = countIn l₁ k + countIn l₂ k := by
  rw [countIn_of_perm h, countIn_of_perm h₁, countIn_of_perm h₂, hkeys.count_eq, List.count_append]

namespace Store

variable {s : Store}

/-- The summary of a window in full. -/
def summaryOf (s : Store) (w : Window) : Summary :=
  ⟨s.countsByReviewer w, s.countsByStatus w, s.countsByTeam w⟩

/-- **The summary of the whole is the sum of those of the parts.** -/
theorem summaryOf_sums (h : w.Parts w₁ w₂) :
    (s.summaryOf w).Sums (s.summaryOf w₁) (s.summaryOf w₂) := by
  have hreviews := h.assignmentsIn_perm (s := s)
  have hpulls := h.pullsIn_perm (s := s)
  simp only [pullsIn_eq] at hpulls
  refine ⟨countIn_append (sortBy_perm ..) (sortBy_perm ..) (sortBy_perm ..) ?_,
    countIn_append (ascendingBy_perm ..) (ascendingBy_perm ..) (ascendingBy_perm ..) ?_,
    countIn_append (sortBy_perm ..) (sortBy_perm ..) (sortBy_perm ..) ?_⟩
  · rw [← List.map_append]
    exact hreviews.map _
  · rw [← List.map_append]
    exact hpulls.map _
  · rw [← List.filterMap_append]
    exact hreviews.filterMap _

/-- The summary of a window that covers nothing is empty. -/
theorem summaryOf_none (h : ∀ p, ¬ w.Covers p) : s.summaryOf w = ⟨[], [], []⟩ := by
  have hnot : ∀ p, w.admits p = false := fun p => Bool.eq_false_iff.2 fun hp =>
    h p (Window.admits_iff.1 hp)
  have hpulls : s.pulls.filter w.admits = [] := List.filter_eq_nil_iff.2 fun p _ => by simp [hnot]
  have hreviews : s.assignmentsIn w = [] := by
    refine List.filter_eq_nil_iff.2 fun a _ => ?_
    cases s.pull? a.pull <;> simp [hnot]
  simp only [summaryOf, countsByReviewer, countsByStatus, countsByTeam, hpulls, hreviews]
  rfl

end Store

/-! ## Sessions -/

namespace Session

variable {engine : Settings.Engine} {s : Session}

/-- Whoever asks for a summary of the window, with a limit that leaves room for all users, is
    answered with this one. -/
def Summarizes (s : Session) (w : Window) (v : Summary) : Prop :=
  ∀ x limit, x.Asks s (.summary ⟨w, limit⟩) → s.Spared x → x.site.settings.engine.UsualFits →
    (s.store.users.length : Int) ≤ limit → limit ≤ 9223372036854775807 →
    (s.take x).1 = .ok (.answer (.summary v))

theorem Reachable.summarizes (h : s.Reachable engine) : s.Summarizes w (s.store.summaryOf w) := by
  intro x limit hx hspared husual hroom hfit
  obtain ⟨n, hn, hle, hmost⟩ := limitOr_room hroom hfit fun _ => ⟨husual.positive, husual.fits⟩
  obtain ⟨_, hreply, rfl⟩ := take_answered hx hspared (Desk.summary_answer hn (by omega))
  have hall : (s.store.countsByReviewer w).take n = s.store.countsByReviewer w :=
    List.take_of_length_le (h.linked.length_countsByReviewer_le.trans hle)
  rw [hreply]
  exact congrArg (fun l => Except.ok (Reply.answer (.summary ⟨l, _, _⟩))) hall

/-- **Summaries add up.**  In every session that the desk can reach, the counts of a window
    are the sums of those up to a moment and from the next one on, for every moment from the
    start of the window to before its end; the counts for every status are the sums of those
    of open and of merged pull requests; and a window that ends before it starts counts
    nothing. -/
theorem Reachable.summaries_add (h : s.Reachable engine) (w : Window) :
    (∀ m, (∀ a ∈ w.since, a ≤ m) → (∀ c ∈ w.upTo, m < c) → ∃ v v₁ v₂,
      s.Summarizes w v ∧ s.Summarizes { w with upTo := some m } v₁ ∧
        s.Summarizes { w with since := some (m.later 1) } v₂ ∧ v.Sums v₁ v₂) ∧
    (w.status = none → ∃ v v₁ v₂,
      s.Summarizes w v ∧ s.Summarizes { w with status := some .opened } v₁ ∧
        s.Summarizes { w with status := some .merged } v₂ ∧ v.Sums v₁ v₂) ∧
    ∀ a ∈ w.since, ∀ c ∈ w.upTo, c < a → s.Summarizes w ⟨[], [], []⟩ := by
  refine ⟨fun m hsince hupTo => ?_, fun hstatus => ?_, fun a ha c hc hlt => ?_⟩
  · exact ⟨_, _, _, h.summarizes, h.summarizes, h.summarizes,
      Store.summaryOf_sums (Window.parts_at hsince hupTo)⟩
  · exact ⟨_, _, _, h.summarizes, h.summarizes, h.summarizes,
      Store.summaryOf_sums (Window.parts_status hstatus)⟩
  · have hnone : ∀ p, ¬ w.Covers p := fun p hp =>
      Int.not_lt.2 (Int.le_trans (hp.since a ha) (hp.upTo c hc)) hlt
    exact Store.summaryOf_none hnone ▸ h.summarizes

/-- One pull request is opened at the moment of the cut, and one after it. -/
theorem summaries_add_busy :
    let s := blank.along (opening ++ busy)
    let answered (w : Window) (v : Summary) : Prop :=
      (s.take { action := .desk (.summary ⟨w, 7⟩) }).1 = .ok (.answer (.summary v))
    let v₁ : Summary := ⟨[("cyd", 1), ("dan", 1)], [(.opened, 1)], [("core", 2)]⟩
    let v₂ : Summary := ⟨[("bob", 1), ("cyd", 1)], [(.opened, 1)], [("core", 2)]⟩
    (∃ v, answered {} v ∧ answered { upTo := some ⟨0⟩ } v₁ ∧
      answered { since := some ⟨1⟩ } v₂ ∧ v.Sums v₁ v₂) ∧
    answered { since := some ⟨1⟩, upTo := some ⟨0⟩ } ⟨[], [], []⟩ := by
  have hroom : ((blank.along (opening ++ busy)).store.users.length : Int) ≤ 7 := by decide +kernel
  have husual : ({} : Settings.Engine).UsualFits := ⟨by decide, by decide⟩
  have hanswer : ∀ {w v}, (blank.along (opening ++ busy)).Summarizes w v →
      ((blank.along (opening ++ busy)).take { action := .desk (.summary ⟨w, 7⟩) }).1 =
        .ok (.answer (.summary v)) :=
    fun h => h _ 7 (.desk rfl) (spared_of_fault rfl) husual hroom (by decide)
  have hfound : ∀ {w v v'}, (blank.along (opening ++ busy)).Summarizes w v →
      answerOf? ((blank.along (opening ++ busy)).take { action := .desk (.summary ⟨w, 7⟩) }).1 =
        some (.summary v') → v = v' := by
    intro w v v' h h'
    exact Answer.summary.inj (Reply.answer.inj (Except.ok.inj
      ((hanswer h).symm.trans (answerOf?_eq_some h'))))
  obtain ⟨v, v₁, v₂, h, h₁, h₂, hsums⟩ := (reachable_busy.summaries_add {}).1 ⟨0⟩ nofun nofun
  obtain rfl : v₁ = ⟨[("cyd", 1), ("dan", 1)], [(.opened, 1)], [("core", 2)]⟩ :=
    hfound h₁ (by decide +kernel)
  obtain rfl : v₂ = ⟨[("bob", 1), ("cyd", 1)], [(.opened, 1)], [("core", 2)]⟩ :=
    hfound h₂ (by decide +kernel)
  refine ⟨⟨v, hanswer h, hanswer h₁, hanswer h₂, hsums⟩, ?_⟩
  exact hanswer ((reachable_busy.summaries_add _).2.2 ⟨1⟩ rfl ⟨0⟩ rfl (by decide))

end Session

end ReviewRota
