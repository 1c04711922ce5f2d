/-
  ReviewRota — opening a pull request.

  A new pull request is refused for one of three reasons, in a fixed order, before
  anybody is picked.  Otherwise it is stored with its reviewers and nothing else changes.
  The reviewers are as many of the author's active teammates as the settings ask for, and
  the draws pick them without favour: every ordered choice of so many teammates comes
  from exactly one list of draws.

  * `Store.teammates`: the other active members of a user's team;
  * `openPull_unknown`, `openPull_inactive`, `openPull_taken`: the three refusals, and
    `openPull_picked`: what is opened, whatever the sample yields;
  * `Session.Opens`: the step opens a pull request with these reviewers;
  * `Session.Reachable.pull_opened`: what becomes of a request to open one.
-/
import ReviewRota.Proofs.Deals

namespace ReviewRota

open Op

variable {c : Conditions} {s : Scene} {id title author : String} {user : User}

/-- The other active members of a user's team. -/
def Store.teammates (s : Store) (user : User) : Finset String := s.available user.team [user.id]

/-! ## The desk -/

namespace Desk

open Store

/-- A pull request of an unknown author is refused at once. -/
theorem openPull_unknown (hc : c.Calm s) (hu : s.store.user? author = none) :
    (openPull id title author).Refuses c s ⟨.userUnknown, ""⟩ := by
  refine .bind (.unitOfWork (fun _ => .bind (.query (fun _ => ?_) hc.spared)) hc.spared)
  rw [hu]
  exact ends_refuse.2 ⟨rfl, rfl, rfl⟩

/-- A pull request of an author who is switched off is refused before its id is looked
    at. -/
theorem openPull_inactive (hc : c.Calm s) (hu : s.store.user? author = some user)
    (ha : user.active = false) : (openPull id title author).Refuses c s .authorInactive := by
  refine .bind (.unitOfWork (fun _ => .bind (.query (fun _ => ?_) hc.spared)) hc.spared)
  rw [hu]
  dsimp only
  rw [ha]
  exact ends_throw.2 ⟨rfl, rfl, rfl⟩

theorem addPull_taken (hc : c.Calm s) (hid : s.store.pull? id ≠ none) :
    (Op.addPull id title author).Ends c s (fun _ _ => False) fun e t =>
      e = .store (.duplicateKey "pull_requests.id") ∧ t.generator = s.generator := by
  refine .bind (.reach (fun _ => .bind (ends_read.2 (.bind (ends_get.2 (.bind (.ofExcept
    (fun r h => ?_) fun e he => ?_)))))) hc.spared)
  · unfold Store.addPull at h
    split at h
    next => cases h
    next hn => exact (hid hn).elim
  · unfold Store.addPull at he
    split at he
    next => exact ⟨(Except.error.inj he).symm, rfl⟩
    next => cases he

theorem addPull_fresh (hc : c.Calm s) (hid : s.store.pull? id = none) :
    (Op.addPull id title author).Ends c s (fun _ t =>
      t.store = s.store.opened ⟨id, title, author, .opened, c.now, none⟩ [] c.now ∧
        t.generator = s.generator) fun _ _ => False := by
  have hadd : s.store.addPull id title author c.now =
      .ok (⟨id, title, author, .opened, c.now, none⟩,
        s.store.opened ⟨id, title, author, .opened, c.now, none⟩ [] c.now) := by
    rw [Store.addPull, hid]
    simp [Store.opened]
  refine .bind (.reach (fun _ => .bind (ends_read.2 (.bind (ends_get.2 (.bind (.ofExcept
    (fun r h => ?_) fun e he => ?_)))))) hc.spared)
  · obtain rfl := Except.ok.inj (hadd.symm.trans h)
    exact .bind (ends_modify.2 (ends_pure.2 ⟨rfl, rfl⟩))
  · cases hadd.symm.trans he

/-- A pull request whose id is taken is refused, and nobody has been picked. -/
theorem openPull_taken (hc : c.Calm s) (hu : s.store.user? author = some user)
    (ha : user.active = true) (hid : s.store.pull? id ≠ none) :
    (openPull id title author).Refuses c s ⟨.pullExists, ""⟩ := by
  refine .bind (.unitOfWork (fun calls => .bind (.query (fun _ => ?_) hc.spared)) hc.spared)
  rw [hu]
  dsimp only
  rw [ha]
  refine .bind (ends_unlessTaken.2 (Ends.mono (addPull_taken (c := c) (s := { s with calls := _ })
    hc hid) (fun _ _ => False.elim) fun e t he => ?_))
  obtain ⟨rfl, hgenerator⟩ := he
  rw [if_pos (by decide +kernel)]
  exact .report fun _ => ⟨rfl, rfl, hgenerator⟩

/-- Reviewers who are not there yet can all be added. -/
theorem assignAll_fresh {reviewers : List String} (hc : c.Calm s) (hnodup : reviewers.Nodup)
    (hfresh : ∀ r ∈ reviewers, r ∉ s.store.reviewers id) :
    (reviewers.forM (Op.assign id)).Ends c s (fun _ t => t.generator = s.generator)
      fun _ _ => False := by
  refine (Ends.forM (I := fun rest t => t.generator = s.generator ∧ rest.Nodup ∧
    ∀ r ∈ rest, r ∉ t.store.reviewers id) (fun r rest t ht => ?_) ⟨rfl, hnodup, hfresh⟩).mono
    (fun _ _ h => h.1) fun _ _ h => h
  obtain ⟨ht, hnodup, hfresh⟩ := ht
  obtain ⟨hr, hrest⟩ := List.nodup_cons.1 hnodup
  have hassign : t.store.assign id r c.now = .ok (t.store.seat id r c.now) := by
    rw [assign_eq, if_neg (hfresh r List.mem_cons_self)]
  refine .attempt (fun _ store h => ?_) (fun _ e h => ?_) hc.spared
  · obtain rfl := Except.ok.inj (hassign.symm.trans h)
    refine ⟨ht, hrest, fun q hq hseated => ?_⟩
    rcases List.mem_cons.1 (reviewers_seat_perm.mem_iff.1 hseated) with rfl | hseated
    · exact hr hq
    · exact hfresh q (List.mem_cons_of_mem _ hq) hseated
  · cases hassign.symm.trans h

/-- **Whom a new pull request gets.**  Nothing keeps it from the reviewers that the sample
    yields, whatever holds of these and of the draws left. -/
theorem openPull_picked {P : List String → Generator → Prop} (hs : s.store.Sound) (hc : c.Calm s)
    (hu : s.store.user? author = some user) (ha : user.active = true)
    (hid : s.store.pull? id = none)
    (hP : (Drawing.sample (s.store.candidates { within := user.team, exclude := [author] })
      c.settings.maxReviewers).Ends s.generator P fun _ _ => False) :
    (openPull id title author).Ends c s (fun view t => P view.reviewers t.generator)
      fun _ _ => False := by
  obtain rfl : user.id = author := (mem_of_user? hu).2
  refine .bind (.unitOfWork (fun _ => .bind (.query (fun calls => ?_) hc.spared)) hc.spared)
  rw [hu]
  dsimp only
  rw [ha]
  refine .bind (ends_unlessTaken.2 (Ends.mono (addPull_fresh (c := c) (s := { s with calls })
    hc hid) (fun pull t ht => ?_) fun _ _ => False.elim))
  obtain ⟨hstore, hgenerator⟩ := ht
  have hpool : t.store.candidates { within := user.team, exclude := [user.id] } =
      s.store.candidates { within := user.team, exclude := [user.id] } := by
    rw [hstore]
    rfl
  have hempty : t.store.reviewers id = [] := by
    let p : PullRequest := ⟨id, title, user.id, .opened, c.now, none⟩
    have hperm : ((s.store.opened p [] c.now).reviewers id).Perm [] :=
      reviewers_opened_perm (hs.seats_eq_nil hid)
    rw [hstore]
    exact hperm.eq_nil
  refine .bind (.query (fun calls => .bind (ends_read.2 (.bind (.drawing ?_)))) hc.spared)
  rw [hpool, hgenerator]
  refine (hP.and Drawing.sample_spec).mono (fun rs g hr => .bind ?_) fun _ _ h => h.1.elim
  obtain ⟨hP, -, hsub, hsuf⟩ := hr
  have hnodup : rs.Nodup := by
    obtain ⟨l, hl, hsub⟩ := hsub
    exact hl.nodup_iff.1 ((hs.nodup_candidates _).sublist hsub)
  have hfresh : ∀ r ∈ rs, r ∉ t.store.reviewers id := by
    intro r _
    rw [hempty]
    exact List.not_mem_nil
  have hcalm : c.Calm { t with calls, generator := g } := ⟨hc.1, hc.2.suffix hsuf⟩
  have hassigned := assignAll_fresh hcalm hnodup hfresh
  refine hassigned.mono (fun _ u hu => ?_) fun _ _ => False.elim
  have hview : P rs u.generator := by
    rw [hu]
    exact hP
  exact ends_pure.2 (.bind (.report fun _ => hview))

end Desk

/-! ## A step that opens a pull request -/

namespace Session

open Op

variable {engine : Settings.Engine} {s : Session} {x : Step}

/-- The step opens the pull request with these reviewers: it answers with it, stores it
    with a review for each of them, and has taken a draw for each of them. -/
structure Opens (s : Session) (x : Step) (id title author : String) (reviewers : List String) :
    Prop where
  reply : (s.take x).1 = .ok (.answer (.pull
    ⟨id, title, author, .opened, reviewers, (s.arranged x.cue).clock, none⟩))
  store : (s.next x).store =
    { s.store with
      pulls := s.store.pulls ++ [⟨id, title, author, .opened, (s.arranged x.cue).clock, none⟩]
      assignments := s.store.assignments ++
        reviewers.map fun r => ⟨id, r, (s.arranged x.cue).clock⟩ }
  draws : s.Draws x reviewers.length

/-- A pull request of a new id and of an active author is opened with the reviewers that
    the sample yields. -/
theorem opens_of_sample {P : List String → Prop} (hs : s.store.Sound)
    (hx : x.Asks s (.openPull (.text id) (.text title) (.text author))) (hc : s.Calm x)
    (hu : s.store.user? author = some user) (ha : user.active = true)
    (hid : s.store.pull? id = none)
    (hP : (Drawing.sample (s.store.candidates { within := user.team, exclude := [author] })
      x.site.settings.engine.maxReviewers).Ends (s.scene x.cue).generator (fun rs _ => P rs)
        fun _ _ => False) :
    ∃ rs, P rs ∧ s.Opens x id title author rs := by
  have hends : (Desk.performAny (.openPull (.text id) (.text title) (.text author))).Ends
      (s.conditions x.site.settings.engine x.cue) (s.scene x.cue)
      (fun a t => ∃ rs, a = .pull ⟨id, title, author, .opened, rs, (s.arranged x.cue).clock, none⟩ ∧
        P rs ∧ t.generator = (s.scene x.cue).generator.skip rs.length ∧ t.store = s.store.opened
          ⟨id, title, author, .opened, (s.arranged x.cue).clock, none⟩ rs (s.arranged x.cue).clock)
      fun _ _ => False := by
    refine ends_map.2 (((Desk.openPull_picked (s := s.scene x.cue) hs hc.conditions hu ha hid
      ((hP.and Drawing.sample_skip).mono (fun _ _ h => h) fun _ _ => And.left)).and
        Desk.openPull_ends).mono ?_ fun _ _ => And.left)
    rintro view t ⟨⟨hrs, hg⟩, rfl, rfl, rfl, ⟨-, hview, -, hstore⟩⟩
    refine ⟨view.reviewers, congrArg Answer.pull hview, hrs, hg, ?_⟩
    rw [hstore, hview]
    rfl
  rcases take_of_desk hx (fun _ _ _ => False.elim) hends with
    ⟨_, hr, rs, rfl, hrs, hg, hstore⟩ | ⟨_, -, he⟩
  · exact ⟨rs, hrs, hr, hstore, draws_of_skip hg⟩
  · exact he.elim

/-- **What becomes of a request to open a pull request.**  In a reachable session, and
    while nothing goes wrong, it is refused if the author is unknown, or else is switched
    off, or else if the id is taken; then nobody is picked.  Otherwise it is opened, with
    as many reviewers as the settings ask for or as there are active teammates of the
    author.  These are distinct, and the draws decide on them and on their order: lists
    of draws of which each is below the number of teammates who are left correspond one
    to one to the ordered choices of so many teammates. -/
theorem Reachable.pull_opened (h : s.Reachable engine)
    (hx : x.Asks s (.openPull (.text id) (.text title) (.text author))) (hc : s.Calm x) :
    ((∀ u ∈ s.store.users, u.id ≠ author) → s.Refuses x ⟨.userUnknown, ""⟩) ∧
    ∀ u ∈ s.store.users, u.id = author →
      (u.active = false → s.Refuses x .authorInactive) ∧
      (u.active = true → (∃ p ∈ s.store.pulls, p.id = id) → s.Refuses x ⟨.pullExists, ""⟩) ∧
      (u.active = true → (∀ p ∈ s.store.pulls, p.id ≠ id) →
        let mates := s.store.teammates u
        let k := (min x.site.settings.engine.maxReviewers mates.card).toNat
        (∃ rs ∈ Drawing.Choices k mates, s.Opens x id title author rs) ∧
        ∃ pick : List Nat → List String,
          Set.BijOn pick (Drawing.Deals k mates.card) (Drawing.Choices k mates) ∧
          ∀ ds ∈ Drawing.Deals k mates.card, ∀ rest, Draw.NeverFail rest →
            s.Opens (x.drawing (Draw.indices ds ++ rest)) id title author (pick ds)) := by
  have hs := h.sound
  refine ⟨fun hn => ?_, ?_⟩
  · exact refuses_of_desk hx (Desk.openPull_unknown hc.conditions
      (Store.user?_eq_none_iff.2 hn)).map
  rintro u hu rfl
  have hfound : s.store.user? u.id = some u := hs.user?_eq hu
  refine ⟨fun ha => ?_, fun ha ⟨p, hp, hpid⟩ => ?_, fun ha hfresh => ?_⟩
  · exact refuses_of_desk hx (Desk.openPull_inactive hc.conditions hfound ha).map
  · have htaken : s.store.pull? id ≠ none := fun hn => Store.pull?_eq_none_iff.1 hn p hp hpid
    exact refuses_of_desk hx (Desk.openPull_taken hc.conditions hfound ha htaken).map
  · have hnew : s.store.pull? id = none := Store.pull?_eq_none_iff.2 hfresh
    let pool := s.store.candidates { within := u.team, exclude := [u.id] }
    have hnodup : pool.Nodup := hs.nodup_candidates _
    have hmates : pool.toFinset = s.store.teammates u := Store.toFinset_candidates
    have hcard : pool.length = (s.store.teammates u).card := hs.length_candidates
    refine ⟨?_, Drawing.dealt pool, ?_, fun ds hds rest hrest => ?_⟩
    · rw [← hcard, ← hmates]
      exact opens_of_sample hs hx hc hfound ha hnew
        ((Drawing.sample_choices hnodup).mono (fun _ _ h => h) fun _ _ h => h hc.draws)
    · rw [← hcard, ← hmates]
      exact Drawing.dealt_bijOn hnodup
    · rw [← hcard] at hds
      have hcalm : s.Calm (x.drawing (Draw.indices ds ++ rest)) :=
        hc.drawing (Draw.neverFail_indices hrest)
      obtain ⟨rs, rfl, hopens⟩ := opens_of_sample hs hx.drawing hcalm hfound ha hnew
        (Drawing.sample_dealt hds)
      exact hopens

theorem pull_opened_opening :
    let s := blank.along opening
    let x : Step := { action := .desk (.openPull (.text "p2") (.text "More") (.text "ann")) }
    ∃ pick : List Nat → List String,
      Set.BijOn pick (Drawing.Deals 2 3) (Drawing.Choices 2 {"bob", "cyd", "dan"}) ∧
        s.Opens (x.drawing (Draw.indices [2, 0] ++ [])) "p2" "More" "ann" (pick [2, 0]) := by
  intro s x
  let ann : User := ⟨"ann", "Ann", "core", true, ⟨0⟩, ⟨0⟩⟩
  have hann : ann ∈ (blank.along opening).store.users := by decide +kernel
  have hfresh : ∀ p ∈ (blank.along opening).store.pulls, p.id ≠ "p2" := by decide +kernel
  have hmates : (blank.along opening).store.teammates ann = {"bob", "cyd", "dan"} := by
    decide +kernel
  have hdraws : (blank.along opening).draws = [] := by decide +kernel
  have hdeal : [2, 0] ∈ Drawing.Deals 2 3 := Drawing.cons_mem_deals.2 ⟨by omega,
    Drawing.cons_mem_deals.2 ⟨by omega, Drawing.nil_mem_deals⟩⟩
  have hcalm : s.Calm x := calm_of_cue rfl hdraws
  obtain ⟨-, hknown⟩ := reachable_opening.pull_opened (.desk rfl) hcalm
  obtain ⟨-, pick, hpick, hopens⟩ := (hknown ann hann rfl).2.2 rfl hfresh
  rw [hmates] at hpick hopens
  exact ⟨pick, hpick, hopens [2, 0] hdeal [] nofun⟩

end Session

end ReviewRota
