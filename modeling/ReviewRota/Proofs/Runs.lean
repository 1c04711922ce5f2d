/-
  ReviewRota — runs.

  A run is a list of steps, one after another, from a session whose store is empty.
  Every step may be made at another site, under another cue; what they share are the
  settings of the desk.

  * `Step` and `Step.Regular`: a step, and one that goes through the desk;
  * `Session.along` is where steps lead, and `Session.Reachable` what regular steps
    reach from nothing;
  * `Session.Reachable.sound`: the store of such a session is sound, and
    `Session.Reachable.invariant`: whatever every step keeps holds of it;
  * `Session.course_along`: what regular steps make of one pull request;
  * `Session.opening_along`: every pull request was opened in some step, and what it
    is now is what came of it since.
-/
import ReviewRota.Proofs.Errands

namespace ReviewRota

/-- A step of a session. -/
structure Step where
  site : Site := {}
  cue : Cue := {}
  action : Action

/-- The step works with these settings of the desk, and not past the desk. -/
structure Step.Regular (engine : Settings.Engine) (x : Step) : Prop where
  engine : x.site.settings.engine = engine
  desk : x.action.isAccess = false

instance {engine : Settings.Engine} {x : Step} : Decidable (x.Regular engine) :=
  decidable_of_iff (x.site.settings.engine = engine ∧ x.action.isAccess = false)
    ⟨fun ⟨h₁, h₂⟩ => ⟨h₁, h₂⟩, fun ⟨h₁, h₂⟩ => ⟨h₁, h₂⟩⟩

namespace Session

variable {engine : Settings.Engine} {s : Session} {x : Step} {steps : List Step}
  {p q : PullRequest}

/-- A step taken: how it ends, the scene that it leaves and the next state. -/
def take (s : Session) (x : Step) : Except Failure Reply × Scene × Session :=
  s.act x.site x.cue x.action

/-- The state after a step. -/
def next (s : Session) (x : Step) : Session := (s.take x).2.2

/-- The state after some steps. -/
def along (s : Session) (steps : List Step) : Session := steps.foldl next s

/-- The replies to some steps, one after another. -/
def replies (s : Session) : List Step → List (Except Failure Reply)
  | [] => []
  | x :: steps => (s.take x).1 :: (s.next x).replies steps

/-- Some regular steps reach the session from an empty store. -/
def Reachable (engine : Settings.Engine) (s : Session) : Prop :=
  ∃ start : Session, start.store = {} ∧ ∃ steps, (∀ x ∈ steps, Step.Regular engine x) ∧
    s = start.along steps

theorem along_append {before after : List Step} :
    s.along (before ++ after) = (s.along before).along after :=
  List.foldl_append

/-! ## One step -/

/-- A step ends as the work of its action does. -/
theorem take_of_ends {done : Reply → Scene → Prop} {lost : Failure → Scene → Prop}
    (h : (x.action.work x.site s.serving).Ends (s.conditions x.site.settings.engine x.cue)
      (s.scene x.cue) done lost) :
    (∃ r, (s.take x).1 = .ok r ∧ done r (s.take x).2.1) ∨
      ∃ e, (s.take x).1 = .error e ∧ lost e (s.take x).2.1 := by
  unfold take act
  unfold Op.Ends at h
  split at h
  next r _ ho => rw [ho]; exact .inl ⟨r, rfl, h⟩
  next e _ ho => rw [ho]; exact .inr ⟨e, rfl, h⟩

/-- What a step yields is what the operation yields of which its action is made. -/
theorem take_of_work {α : Type} {op : Op α} {f : α → Reply}
    (h : x.action.work x.site s.serving = f <$> op) :
    let u := op.outcome (s.conditions x.site.settings.engine x.cue) (s.scene x.cue)
    (s.take x).1 = f <$> u.1 ∧ (s.take x).2.1 = u.2 := by
  unfold take act
  rw [h, Op.outcome_map]
  exact ⟨rfl, rfl⟩

theorem next_store : (s.next x).store = (s.take x).2.1.store := rfl

/-- What a regular step does to the store: nothing, a merge, or what it asked the desk. -/
theorem next_deed (hx : x.Regular engine) (hs : s.store.Sound) :
    (s.next x).store = s.store ∨
      (∃ id, Desk.Merged (s.conditions engine x.cue).now s.store id (s.next x).store) ∨
      ∃ r ∈ x.action.request? x.site, ∃ r' a, r.complete? = some r' ∧
        Desk.Deed engine.maxReviewers (s.conditions engine x.cue).now s.store r' a
          (s.next x).store := by
  obtain ⟨rfl, ha⟩ := hx
  rw [next_store]
  rcases take_of_ends (Action.work_serves ha _ _ hs) with ⟨_, -, h⟩ | ⟨_, -, h⟩
  · exact h.deed hs
  · exact h.deed hs

/-- **A regular step** edits the store, or opens a pull request. -/
theorem next_effect (hx : x.Regular engine) (hs : s.store.Sound) :
    Store.Edits (s.conditions engine x.cue).now s.store (s.next x).store ∨
      ∃ view, Store.Opening engine.maxReviewers (s.conditions engine x.cue).now s.store view
        (s.next x).store ∧ Created (s.conditions engine x.cue) (s.scene x.cue) view
        (s.next x).store := by
  obtain ⟨rfl, ha⟩ := hx
  rw [next_store]
  rcases take_of_ends (Action.work_serves ha _ _ hs) with ⟨_, -, h⟩ | ⟨_, -, h⟩
  · exact h.effect hs
  · exact h.effect hs

theorem next_sound (hx : x.Regular engine) (hs : s.store.Sound) : (s.next x).store.Sound := by
  rcases next_effect hx hs with h | ⟨_, h, -⟩
  · exact h.sound hs
  · exact h.sound hs

/-- The history only grows. -/
theorem next_history_prefix (hx : x.Regular engine) (hs : s.store.Sound) :
    s.store.history <+: (s.next x).store.history := by
  rcases next_effect hx hs with h | ⟨_, h, -⟩
  · exact h.history_prefix
  · rw [h.result]; exact List.prefix_rfl

theorem next_course (hx : x.Regular engine) (hs : s.store.Sound) (hp : p ∈ s.store.pulls) :
    ∃ q ∈ (s.next x).store.pulls, Store.Course (s.store, p) ((s.next x).store, q) := by
  rcases next_effect hx hs with h | ⟨_, h, -⟩
  · exact h.course hs hp
  · exact ⟨p, (h.turn hp).1, .single ⟨_, (h.turn hp).2⟩⟩

/-- After a step, a pull request was there before or has been opened by the step. -/
theorem next_pull (hx : x.Regular engine) (hs : s.store.Sound) (hq : q ∈ (s.next x).store.pulls) :
    (∃ p ∈ s.store.pulls, Store.Course (s.store, p) ((s.next x).store, q)) ∨
      ∃ view, q = view.row ∧ Store.Opening engine.maxReviewers (s.conditions engine x.cue).now
        s.store view (s.next x).store ∧ Created (s.conditions engine x.cue) (s.scene x.cue) view
        (s.next x).store := by
  have hold : q.id ∈ s.store.pulls.map PullRequest.id →
      ∃ p ∈ s.store.pulls, Store.Course (s.store, p) ((s.next x).store, q) := by
    intro hid
    obtain ⟨p, hp, he⟩ := List.mem_map.1 hid
    obtain ⟨r, hr, hc⟩ := next_course hx hs hp
    obtain rfl := (next_sound hx hs).pull_eq hq hr (he.symm.trans hc.id_eq.symm)
    exact ⟨p, hp, hc⟩
  rcases next_effect hx hs with h | ⟨view, h, hc⟩
  · exact .inl (hold (h.pull_ids ▸ List.mem_map_of_mem hq))
  · have hq' := hq
    rw [h.result] at hq'
    rcases List.mem_append.1 hq' with hq' | hq'
    · exact .inl (hold (List.mem_map_of_mem hq'))
    · exact .inr ⟨view, List.mem_singleton.1 hq', h, hc⟩

/-! ## Some steps -/

theorem along_sound (h : ∀ x ∈ steps, Step.Regular engine x) (hs : s.store.Sound) :
    (s.along steps).store.Sound := by
  induction steps generalizing s with
  | nil => exact hs
  | cons x steps ih =>
    exact ih (fun y hy => h y (List.mem_cons_of_mem _ hy)) (next_sound (h x List.mem_cons_self) hs)

/-- Each of some regular steps is regular, and is taken from a sound store. -/
theorem sound_before {before after : List Step}
    (h : ∀ y ∈ before ++ x :: after, Step.Regular engine y) (hs : s.store.Sound) :
    x.Regular engine ∧ (s.along before).store.Sound := by
  have hbefore : ∀ y ∈ before, Step.Regular engine y := fun y hy => h y (List.mem_append_left _ hy)
  exact ⟨h x (List.mem_append_right _ List.mem_cons_self), along_sound hbefore hs⟩

/-- What regular steps make of a pull request. -/
theorem course_along (h : ∀ x ∈ steps, Step.Regular engine x) (hs : s.store.Sound)
    (hp : p ∈ s.store.pulls) :
    ∃ q ∈ (s.along steps).store.pulls, Store.Course (s.store, p) ((s.along steps).store, q) := by
  induction steps generalizing s p with
  | nil => exact ⟨p, hp, .refl⟩
  | cons x steps ih =>
    have hx := h x List.mem_cons_self
    obtain ⟨q, hq, hc⟩ := next_course hx hs hp
    obtain ⟨r, hr, hc'⟩ := ih (fun y hy => h y (List.mem_cons_of_mem _ hy)) (next_sound hx hs) hq
    exact ⟨r, hr, hc.trans hc'⟩

/-- **Where a pull request comes from.**  It was there before the steps, or one of
    them has opened it; either way it has run its course since. -/
theorem opening_along (h : ∀ x ∈ steps, Step.Regular engine x) (hs : s.store.Sound)
    (hq : q ∈ (s.along steps).store.pulls) :
    (∃ p ∈ s.store.pulls, Store.Course (s.store, p) ((s.along steps).store, q)) ∨
      ∃ before x after view, steps = before ++ x :: after ∧
        Store.Opening engine.maxReviewers ((s.along before).conditions engine x.cue).now
          (s.along before).store view ((s.along before).next x).store ∧
        Created ((s.along before).conditions engine x.cue) ((s.along before).scene x.cue) view
          ((s.along before).next x).store ∧
        Store.Course (((s.along before).next x).store, view.row) ((s.along steps).store, q) := by
  induction steps using List.reverseRecOn generalizing q with
  | nil => exact .inl ⟨q, hq, .refl⟩
  | append_singleton steps x ih =>
    have hx := h x (by simp)
    have hsteps : ∀ y ∈ steps, Step.Regular engine y := fun y hy => h y (by simp [hy])
    rw [along_append] at hq ⊢
    rcases next_pull hx (along_sound hsteps hs) hq with ⟨p, hp, hc⟩ | ⟨view, rfl, ho, hv⟩
    · rcases ih hsteps hp with ⟨r, hr, hc'⟩ | ⟨before, y, after, view, rfl, ho, hv, hc'⟩
      · exact .inl ⟨r, hr, hc'.trans hc⟩
      · exact .inr ⟨before, y, after ++ [x], view, by simp, ho, hv, hc'.trans hc⟩
    · exact .inr ⟨steps, x, [], view, rfl, ho, hv, .refl⟩

/-! ## Reachable sessions -/

theorem Reachable.sound (h : s.Reachable engine) : s.store.Sound := by
  obtain ⟨start, hstart, steps, hsteps, rfl⟩ := h
  exact along_sound hsteps (hstart ▸ .empty)

/-- What holds of the empty store and is kept by every regular step holds of all that is
    reachable. -/
theorem Reachable.invariant {I : Store → Prop} (h : s.Reachable engine) (hempty : I {})
    (hstep : ∀ (s : Session) (x : Step), x.Regular engine → s.store.Sound → I s.store →
      I (s.next x).store) : I s.store := by
  obtain ⟨start, hstart, steps, hsteps, rfl⟩ := h
  induction steps using List.reverseRecOn with
  | nil => exact hstart ▸ hempty
  | append_singleton steps x ih =>
    have hbefore : ∀ y ∈ steps, Step.Regular engine y := fun y hy => hsteps y (by simp [hy])
    rw [along_append]
    exact hstep _ x (hsteps x (by simp)) (along_sound hbefore (hstart ▸ .empty)) (ih hbefore)

theorem Reachable.along (h : s.Reachable engine) (hsteps : ∀ x ∈ steps, Step.Regular engine x) :
    (s.along steps).Reachable engine := by
  obtain ⟨start, hstart, before, hbefore, rfl⟩ := h
  refine ⟨start, hstart, before ++ steps, fun x hx => ?_, along_append.symm⟩
  exact (List.mem_append.1 hx).elim (hbefore x) (hsteps x)

/-- A reachable pull request has run its course since it was opened. -/
theorem Reachable.opening (h : s.Reachable engine) (hp : p ∈ s.store.pulls) :
    ∃ now before view after, Store.Sound before ∧
      Store.Opening engine.maxReviewers now before view after ∧
      Store.Course (after, view.row) (s.store, p) := by
  obtain ⟨start, hstart, steps, hsteps, rfl⟩ := h
  have hs : start.store.Sound := hstart ▸ .empty
  rcases opening_along hsteps hs hp with ⟨q, hq, -⟩ | ⟨before, x, after, view, rfl, ho, -, hc⟩
  · rw [hstart] at hq; cases hq
  · exact ⟨_, _, view, _, (sound_before hsteps hs).2, ho, hc⟩

/-! ## A run -/

/-- A session in which nothing has happened. -/
def blank : Session := { clock := ⟨0⟩ }

/-- Three teams are set up, a pull request is opened in one of them, and a reviewer of
    it is replaced. -/
def opening : List Step :=
  [{ action := .desk (.createTeam (.text "core") [⟨.text "ann", .text "Ann", true⟩,
      ⟨.text "bob", .text "Bob", true⟩, ⟨.text "cyd", .text "Cyd", true⟩,
      ⟨.text "dan", .text "Dan", true⟩]) },
    { action := .service (.createTeam (.text "ops") [⟨.text "eve", .text "Eve", true⟩,
      ⟨.text "fay", .text "Fay", true⟩]) },
    { action := .service (.createTeam (.text "lab") [⟨.text "gil", .text "Gil", true⟩]) },
    { action := .service (.openPull (.text "p1") (.text "Title") (.text "ann")) },
    { action := .desk (.replaceReviewer (.text "p1") (.text "bob")) }]

/-- The team of the author is switched off, and the pull request is merged. -/
def closing : List Step :=
  [{ action := .service (.deactivateTeam (.text "core")) },
    { cue := { advance := .ofNat 1 }, action := .desk (.merge (.text "p1")) }]

theorem reachable_opening : (blank.along opening).Reachable {} :=
  ⟨blank, rfl, opening, by decide +kernel, rfl⟩

/-- The pull request in the end. -/
def settled : PullRequest := ⟨"p1", "Title", "ann", .merged, ⟨0⟩, some ⟨1000000⟩⟩

theorem reachable_closing : ((blank.along opening).along closing).Reachable {} :=
  reachable_opening.along (by decide +kernel)

theorem settled_mem_closing : settled ∈ ((blank.along opening).along closing).store.pulls := by
  decide +kernel

end Session

end ReviewRota
