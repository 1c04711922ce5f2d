/-
  ReviewRota — requests whose order makes no difference.

  A merge looks at one pull request and its reviewers and changes one row.  Whatever is
  asked about another pull request, about a user or about a new team neither reads what a
  merge writes nor writes what it reads.  So it may come before the merge or after it:
  both end as they would end alone, and what is stored in the end is the same.

  * `Request.ApartFrom`: the requests that leave a pull request alone;
  * `Desk.performAny_past`: such a request does not notice a merge;
  * `Desk.performAny_agrees`: nor does the merge notice it;
  * `Desk.merge_alike`: a merge does the same where it finds the same pull request with
    the same reviewers;
  * `Session.Reachable.merge_interchanges`: a step and a merge, in either order.
-/
import ReviewRota.Proofs.Alike
import ReviewRota.Proofs.Answers

namespace ReviewRota

variable {c : Conditions} {id title author leaving name q : String} {now : Moment}

/-! ## One row in another state -/

namespace Store

variable {s : Store} {status status' : Status} {now' : Moment}

theorem setStatus_idem :
    (s.setStatus q status now).setStatus q status now = s.setStatus q status now := by
  simp only [setStatus, List.map_map]
  congr 1
  refine List.map_congr_left fun p _ => ?_
  by_cases h : p.id = q <;> by_cases hm : status = .merged <;>
    simp [PullRequest.withStatus, h, hm]

theorem setStatus_comm (h : id ≠ q) :
    (s.setStatus q status now).setStatus id status' now' =
      (s.setStatus id status' now').setStatus q status now := by
  simp only [setStatus, List.map_map]
  congr 1
  refine List.map_congr_left fun p _ => ?_
  by_cases hq : p.id = q
  · have hid : ¬ p.id = id := fun hid => h (hid.symm.trans hq)
    simp [PullRequest.withStatus, hq, Ne.symm h]
  · by_cases hid : p.id = id <;> simp [PullRequest.withStatus, hq, hid, h]

theorem putMember_setStatus {team : String} {m : Member} :
    (s.setStatus q status now).putMember team m now' =
      (s.putMember team m now').setStatus q status now := by
  have huser : (s.setStatus q status now).user? m.userId = s.user? m.userId := rfl
  unfold putMember
  rw [huser]
  cases s.user? m.userId <;> rfl

theorem addTeam_setStatus : (s.setStatus q status now).addTeam name now' =
    (s.addTeam name now').map (·.setStatus q status now) := by
  have hteam : (s.setStatus q status now).team? name = s.team? name := rfl
  unfold addTeam
  rw [hteam]
  cases s.team? name <;> rfl

theorem addPull_setStatus (h : id ≠ q) :
    (s.setStatus q status now).addPull id title author now' =
      (s.addPull id title author now').map fun r => (r.1, r.2.setStatus q status now) := by
  unfold addPull
  rw [pull?_setStatus_of_ne h]
  cases s.pull? id with
  | some p => rfl
  | none => simp [setStatus, Except.map, h]

theorem assign_setStatus {reviewer : String} :
    (s.setStatus q status now).assign id reviewer now' =
      (s.assign id reviewer now').map (·.setStatus q status now) := by
  unfold assign
  show (if s.assignments.any (fun a => a.pull = id ∧ a.reviewer = reviewer) then _ else _) = _
  split <;> rfl

end Store

/-! ## Requests that leave a pull request alone -/

namespace Request

/-- The request is about another pull request, about a user or about a new team. -/
def ApartFrom {τ : Type} (q : τ) : Request τ → Prop
  | openPull pull _ _ | replaceReviewer pull _ | merge pull => pull ≠ q
  | setUserActive .. | createTeam .. => True
  | _ => False

theorem ApartFrom.complete {r : Request Argument} {r' : Request String}
    (h : r.ApartFrom (.text q)) (hr : r.complete? = some r') : r'.ApartFrom q := by
  have htext : ∀ {pull : Argument} {p : String}, pull ≠ .text q → pull.text? = some p → p ≠ q := by
    rintro pull p hne hp rfl
    exact hne (Desk.text?_eq_some.1 hp)
  cases r <;> simp only [complete?, Option.bind_eq_bind, Option.bind_eq_some_iff,
    Option.map_eq_some_iff, Option.pure_def, Option.some.injEq] at hr
  case createTeam => obtain ⟨_, _, _, _, rfl⟩ := hr; trivial
  case setUserActive => obtain ⟨_, _, rfl⟩ := hr; trivial
  case openPull => obtain ⟨_, hp, _, _, _, _, rfl⟩ := hr; exact htext h hp
  case replaceReviewer => obtain ⟨_, hp, _, _, rfl⟩ := hr; exact htext h hp
  case merge => obtain ⟨_, hp, rfl⟩ := hr; exact htext h hp
  all_goals exact h.elim

end Request

namespace Desk

open Op Store

/-- The store with the pull request merged. -/
abbrev merged (q : String) (now : Moment) (s : Store) : Store := s.setStatus q .merged now

theorem foundTeam_past : (foundTeam name).Past (merged q now) :=
  .unlessTaken (.pure ()) (.attempt fun _ _ => addTeam_setStatus)

theorem putMember_past {team : String} {m : Member} : (putMember team m).Past (merged q now) :=
  .write fun _ _ => putMember_setStatus

theorem listMembers_past {team : String} : (listMembers team).Past (merged q now) :=
  .query fun _ => rfl

theorem findUser_past : (findUser id).Past (merged q now) := .query fun _ => rfl

theorem listCandidates_past {p : Pool} : (listCandidates p).Past (merged q now) :=
  .query fun _ => rfl

theorem findPull_past (h : id ≠ q) : (findPull id).Past (merged q now) :=
  .query fun _ => pull?_setStatus_of_ne h

theorem listReviewers_past : (listReviewers id).Past (merged q now) := .query fun _ => rfl

theorem assign_past {reviewer : String} : (assign id reviewer).Past (merged q now) :=
  .attempt fun _ _ => assign_setStatus

theorem addPull_past (h : id ≠ q) : (addPull id title author).Past (merged q now) := by
  refine .bind (fun _ => .reach _) fun _ => .reading fun c c' => .getting fun s t hst => ?_
  obtain ⟨hstore, -⟩ := Prod.mk.inj hst.paired
  dsimp only at hstore
  rw [hstore, addPull_setStatus h]
  exact .carried fun r => .bind Past.put fun _ => .pure _

theorem unassign_past : (unassign id leaving).Past (merged q now) :=
  .bind (.query fun _ => rfl) fun _ =>
    .bind (.change (·.unassign id leaving) fun _ => rfl) fun _ => .pure _

theorem createTeam_past {members : List Member} :
    (createTeam name members).Past (merged q now) := by
  refine .bind (.unitOfWork ?_) fun rows => .bind (.report _) fun _ => .pure _
  exact .bind foundTeam_past fun _ => .bind (.forM fun _ => putMember_past) fun _ =>
    listMembers_past

theorem setUserActive_past {active : Bool} : (setUserActive id active).Past (merged q now) := by
  refine .bind (.unitOfWork ?_) fun view => .bind (.report _) fun _ => .pure _
  refine .bind findUser_past fun user => ?_
  cases user with
  | none => exact .refuse _
  | some user =>
    exact .reading fun c =>
      .bind (.change (·.setActive id active c.now) fun _ => rfl) fun _ => .pure _

theorem openPull_past (h : id ≠ q) : (openPull id title author).Past (merged q now) := by
  refine .bind (.unitOfWork ?_) fun r => .bind (.report _) fun _ => .pure _
  refine .bind findUser_past fun user => ?_
  cases user with
  | none => exact .refuse _
  | some user =>
    dsimp only
    split
    next => exact .throw _
    next =>
      exact .bind (.unlessTaken (.report _) (addPull_past h)) fun _ =>
        .bind listCandidates_past fun _ => .reading fun _ => .bind .drawing fun _ =>
          .bind (.forM fun _ => assign_past) fun _ => .pure _

theorem replaceReviewer_past (h : id ≠ q) : (replaceReviewer id leaving).Past (merged q now) := by
  refine .bind (.unitOfWork ?_) fun r => .bind (.report _) fun _ => .pure _
  refine .bind (findPull_past h) fun pull => ?_
  cases pull with
  | none => exact .refuse _
  | some pull =>
  dsimp only
  split
  next => exact .refuse _
  next =>
  refine .bind listReviewers_past fun _ => ?_
  split
  next => exact .bind (.report _) fun _ => .refuse _
  next =>
  refine .bind findUser_past fun user => ?_
  cases user with
  | none => exact .refuse _
  | some user =>
  refine .bind listCandidates_past fun _ => .bind .drawing fun joining => ?_
  cases joining with
  | none => exact .refuse _
  | some joining =>
    exact .bind unassign_past fun _ => .bind assign_past fun _ =>
      .bind (.write fun _ _ => rfl) fun _ => .pure _

theorem transition_past {pull : PullRequest} {target : Status} (h : pull.id ≠ q) :
    (transition pull target).Past (merged q now) := by
  unfold transition
  split
  next => exact .throw _
  next =>
  exact .reading fun c =>
    .bind (.change (·.setStatus pull.id target c.now) fun _ => setStatus_comm h) fun _ =>
      .bind (.report _) fun _ => .pure _

theorem merge_past (h : id ≠ q) : (merge id).Past (merged q now) := by
  refine .bind (.unitOfWork ?_) fun r => .bind (.report _) fun _ => .pure _
  refine .finding (fun _ => pull?_setStatus_of_ne h) fun s => ?_
  cases hp : s.pull? id with
  | none => exact .refuse _
  | some pull =>
    have hne : pull.id ≠ q := (mem_of_pull? hp).2.trans_ne h
    dsimp only
    split
    · exact .bind (.pure _) fun _ => .bind listReviewers_past fun _ => .pure _
    · exact .bind (transition_past hne) fun _ => .bind listReviewers_past fun _ => .pure _

/-! ### Requests with missing texts -/

theorem consult_past {g : Store → Store} {call : StoreCall} {a : Argument} :
    (consult call a).Past g := by
  refine .bind (fun _ => .reach call) fun _ => ?_
  cases a.obstacle? with
  | some f => exact .throw f
  | none => exact .pure ()

theorem notStored_past {g : Store → Store} {call : StoreCall} {table : String}
    {arguments : List Argument} : (notStored call table arguments : Op α).Past g :=
  .bind (fun _ => .reach call) fun _ => .throw _

theorem absent_past {g : Store → Store} {call : StoreCall} {cause : Cause} {a : Argument} :
    (absent call cause a : Op α).Past g :=
  .unitOfWork (.bind consult_past fun _ => .refuse cause)

theorem createWith_past {members : List (MemberEntry Argument)} :
    (createWith name members).Past (merged q now) := by
  refine .unitOfWork (.bind foundTeam_past fun _ => .bind (.forM fun m => ?_) fun _ =>
    .bind listMembers_past fun _ => .pure _)
  unfold putEntry
  cases m.complete? with
  | some m => exact putMember_past
  | none => exact notStored_past

theorem openUnnamed_past {pull shown : Argument} :
    (openUnnamed pull shown author).Past (merged q now) := by
  refine .unitOfWork (.bind findUser_past fun user => ?_)
  cases user with
  | none => exact .refuse _
  | some user =>
    dsimp only
    split
    next => exact .throw _
    next => exact .unlessTaken (.report _) notStored_past

theorem replaceUnnamed_past {going : Argument} (h : id ≠ q) :
    (replaceUnnamed id going).Past (merged q now) := by
  refine .unitOfWork (.bind (findPull_past h) fun pull => ?_)
  cases pull with
  | none => exact .refuse _
  | some pull =>
    dsimp only
    split
    next => exact .refuse _
    next =>
      exact .bind listReviewers_past fun _ => .bind (.report _) fun _ => .refuse _

theorem performIncomplete_past {r : Request Argument} (h : r.ApartFrom (.text q)) :
    (performIncomplete r).Past (merged q now) := by
  cases r with
  | createTeam team =>
    cases team with
    | text => exact createWith_past
    | missing | broken => exact .unitOfWork (.unlessTaken (.pure _) notStored_past)
  | setUserActive => exact absent_past
  | openPull _ _ author =>
    cases author with
    | text => exact openUnnamed_past
    | missing | broken => exact absent_past
  | replaceReviewer pull =>
    cases pull with
    | text id => exact replaceUnnamed_past fun he => h (congrArg _ he)
    | missing | broken => exact absent_past
  | merge => exact absent_past
  | showTeam | reviewsOf | deactivateTeam | overview | summary | reviewerReport | pullReport =>
    exact h.elim

theorem perform_past {r : Request String} (h : r.ApartFrom q) :
    (perform r).Past (merged q now) := by
  cases r with
  | createTeam => exact createTeam_past.map _
  | setUserActive => exact setUserActive_past.map _
  | openPull => exact (openPull_past h).map _
  | replaceReviewer => exact (replaceReviewer_past h).bind fun _ => .pure _
  | merge => exact (merge_past h).map _
  | showTeam | reviewsOf | deactivateTeam | overview | summary | reviewerReport | pullReport =>
    exact h.elim

/-- The store with what is merged that a merge may be asked of; only a text names a pull
    request. -/
def merging (q : Argument) (now : Moment) (s : Store) : Store :=
  match q with
  | .text q => merged q now s
  | _ => s

/-- **A request that leaves a pull request alone does not notice that it was merged.** -/
theorem performAny_past {q : Argument} {r : Request Argument} (h : r.ApartFrom q) :
    (performAny r).Past (merging q now) := by
  cases q with
  | missing | broken => exact .same
  | text =>
    unfold performAny
    cases hr : r.complete? with
    | some r' => exact perform_past (h.complete hr)
    | none => exact performIncomplete_past h

/-! ## What a merge looks at -/

/-- The pull request and its reviewers are the same in both stores. -/
def AgreeOn (q : Argument) (s t : Store) : Prop :=
  ∀ id, q = .text id → t.pull? id = s.pull? id ∧ t.reviewers id = s.reviewers id

theorem Deed.agrees {most : Int} {s t : Store} {r : Request String} {a : Answer}
    (h : Deed most now s r a t) (hr : r.ApartFrom q) :
    t.pull? q = s.pull? q ∧ t.reviewers q = s.reviewers q := by
  cases h with
  | @founded name members =>
    refine ⟨congrArg (List.find? _) putAll_pulls, reviewers_congr ?_⟩
    exact congrArg (List.filter _) putAll_assignments
  | flagged => exact ⟨rfl, rfl⟩
  | opened h =>
    rw [h.result]
    exact ⟨pull?_opened_of_ne (Ne.symm hr), reviewers_congr (seats_opened_of_ne (Ne.symm hr))⟩
  | replaced =>
    exact ⟨congrArg (List.find? _) handOver_pulls,
      reviewers_congr (seats_handOver_of_ne (Ne.symm hr))⟩
  | merged h =>
    obtain ⟨p, -, rfl, -, rfl⟩ := h
    exact ⟨pull?_setStatus_of_ne (Ne.symm hr), rfl⟩
  | deactivated => exact hr.elim

/-- **What a merge looks at is left alone** by a request about something else. -/
theorem performAny_agrees {s : Scene} {q : Argument} {r : Request Argument} (h : r.ApartFrom q)
    (hs : s.store.Sound) : (performAny r).Ends c s (fun _ t => AgreeOn q s.store t.store)
      fun _ t => AgreeOn q s.store t.store := by
  have hsame : ∀ {t : Scene}, t.store = s.store → AgreeOn q s.store t.store := by
    intro t ht id _
    rw [ht]
    exact ⟨rfl, rfl⟩
  refine (performAny_ends hs).mono (fun a t ht => ?_) fun _ _ => hsame
  rcases ht with ht | ⟨r', hr', hd⟩
  · exact hsame ht
  · rintro id rfl
    exact hd.agrees (h.complete hr')

/-! ## The same merge from another store -/

/-- What is stored is what was stored on either side, or what the function makes of both;
    nothing is drawn. -/
structure Twins (g : Store → Store) (a b x y : Store × Generator) : Prop where
  draws : x.2 = a.2 ∧ y.2 = b.2
  stores : (x.1 = a.1 ∧ y.1 = b.1) ∨ (x.1 = g a.1 ∧ y.1 = g b.1)

section
variable {α β : Type} {a b : Store × Generator} {g : Store → Store} {x : Op α} {f : α → Op β}

theorem twins_finding {call : StoreCall} {k : Store → α} (h : k b.1 = k a.1)
    (hg : k (g b.1) = k (g a.1)) (hf : ∀ s, (f (k s)).Alike c (Twins g a b) (f (k s))) :
    (query call k >>= f).Alike c (Twins g a b) (query call k >>= f) := by
  refine .finding (fun s t d d' hst => ?_) hf
  rcases hst.stores with ⟨rfl, rfl⟩ | ⟨rfl, rfl⟩
  · exact h
  · exact hg

theorem twins_change (h : ∀ s, g (g s) = g s) :
    (modify fun s => { s with store := g s.store } : Op Unit).Alike c (Twins g a b)
      (modify fun s => { s with store := g s.store }) := by
  refine .modify fun s t hst => ⟨⟨hst.paired.draws, .inr ?_⟩, hst.calls, hst.log⟩
  rcases hst.paired.stores with ⟨hs, ht⟩ | ⟨hs, ht⟩
  · exact ⟨congrArg g hs, congrArg g ht⟩
  · exact ⟨(congrArg g hs).trans (h _), (congrArg g ht).trans (h _)⟩

theorem twins_unitOfWork (h : x.Alike c (Twins g a b) x) :
    (unitOfWork x).Alike c (Twins g a b) (unitOfWork x) :=
  h.unitOfWork fun _ _ _ _ hst huv => ⟨huv.paired.draws, hst.paired.stores⟩

end

/-- **A merge does the same** wherever it finds the same pull request with the same
    reviewers. -/
theorem merge_alike {a b : Store × Generator} {q : Argument} (h : AgreeOn q a.1 b.1) :
    (performAny (.merge q)).Alike c (Twins (merging q c.now) a b) (performAny (.merge q)) := by
  cases q with
  | missing | broken =>
    refine twins_unitOfWork (.bind (.bind (.reach _) fun _ => ?_) fun _ => .throw _)
    split
    · exact .throw _
    · exact .pure _
  | text q =>
    obtain ⟨hpull, hreviewers⟩ := h q rfl
    have hmerged : (merged q c.now b.1).pull? q = (merged q c.now a.1).pull? q := by
      rw [pull?_setStatus_self, pull?_setStatus_self, hpull]
    have hview : ∀ p : PullRequest, ∀ already : Bool, (do
        return (already, p.view (← listReviewers q)) : Op (Bool × PullView)).Alike c
          (Twins (merged q c.now) a b) (do return (already, p.view (← listReviewers q))) :=
      fun _ _ => twins_finding hreviewers hreviewers fun _ => .pure _
    refine .map _ (.bind (twins_unitOfWork (twins_finding hpull hmerged fun s => ?_)) fun r =>
      .bind (.report _) fun _ => .pure _)
    cases hp : s.pull? q with
    | none => exact .throw _
    | some pull =>
      obtain ⟨-, rfl⟩ := mem_of_pull? hp
      dsimp only
      split
      · exact .bind (.pure _) fun _ => hview _ _
      · refine .bind ?_ fun _ => hview _ _
        unfold transition
        split
        · exact .throw _
        · exact .reading (.bind (twins_change fun _ => setStatus_idem) fun _ =>
            .bind (.report _) fun _ => .pure _)

end Desk

/-! ## Steps in either order -/

/-- The step neither moves the clock nor replaces the draws. -/
structure Cue.Still (cue : Cue) : Prop where
  clock : cue.clock = none
  advance : cue.advance = .zero
  draws : cue.draws = none

theorem Moment.advance_zero {m : Moment} : m.advance .zero = m := by
  have hzero : Binary.zero.micros = 0 := by decide +kernel
  rw [advance, later, hzero, Int.add_zero]

section
variable {x y : Step} {r : Request Argument}

theorem Step.Makes.alike {R : Pairing} (hx : x.Makes r) (serving serving' : Bool)
    (h : (Desk.performAny r).Alike c R (Desk.performAny r)) :
    (x.action.work x.site serving).Alike c R (x.action.work x.site serving') := by
  rcases hx with hx | hx
  · rw [hx]
    exact h.map _
  · rw [hx]
    exact (Service.perform_alike h).map _

theorem Step.Makes.agrees {s : Scene} {serving : Bool} {q : Argument} (hx : x.Makes r)
    (hr : r.ApartFrom q) (hs : s.store.Sound) : (x.action.work x.site serving).Ends c s
      (fun _ t => Desk.AgreeOn q s.store t.store) fun _ t => Desk.AgreeOn q s.store t.store := by
  have hdesk := Desk.performAny_agrees (c := c) hr hs
  rcases hx with hx | hx
  · rw [hx]
    exact Op.ends_map.2 hdesk
  · rw [hx]
    have hself : Desk.AgreeOn q s.store s.store := fun _ _ => ⟨rfl, rfl⟩
    exact Op.ends_map.2 (Service.perform_of_desk (fun _ _ => hself) (fun _ => hself)
      (fun _ ht => .report fun _ => ht) hdesk)

namespace Session

variable {engine : Settings.Engine} {s : Session} {q : Argument}

theorem arranged_still {cue : Cue} (h : cue.Still) : s.arranged cue = s := by
  obtain ⟨clock, advance, draws, deadline, fault⟩ := cue
  obtain ⟨rfl, rfl, rfl⟩ := h
  show { s with clock := s.clock.advance .zero, draws := s.draws } = s
  rw [Moment.advance_zero]

theorem conditions_still {cue : Cue} {t : Session} (h : cue.Still) (ht : t.clock = s.clock) :
    t.conditions engine cue = s.conditions engine cue := by
  simp only [conditions, arranged_still h, ht]

theorem scene_still {cue : Cue} (h : cue.Still) :
    s.scene cue = { store := s.store, generator := ⟨s.draws, 0⟩ } := by
  simp only [scene, arranged_still h]

theorem next_still (hx : x.Makes r) (hs : x.cue.Still) : s.next x =
    { s with store := (s.take x).2.1.store, draws := (s.take x).2.1.generator.draws } := by
  have hweb : x.action.isWeb = false := by rcases hx with hx | hx <;> rw [hx] <;> rfl
  show { s.after x.cue (s.take x).2.1 with serving := s.serving || x.action.isWeb } = _
  simp only [after, arranged_still hs, hweb, Bool.or_false]

/-- Two sessions that a step finds alike at the same time: it ends in the same way in
    both, and leaves them alike. -/
theorem take_alike {R : Pairing} {t : Session} (hx : x.Makes r) (hs : x.cue.Still)
    (ht : t.clock = s.clock) (hR : R (s.store, ⟨s.draws, 0⟩) (t.store, ⟨t.draws, 0⟩))
    (h : (Desk.performAny r).Alike (s.conditions x.site.settings.engine x.cue) R
      (Desk.performAny r)) :
    (t.take x).1 = (s.take x).1 ∧
      R ((s.take x).2.1.store, (s.take x).2.1.generator)
        ((t.take x).2.1.store, (t.take x).2.1.generator) := by
  have hstart : (s.scene x.cue).Alike R (t.scene x.cue) := by
    rw [scene_still hs, scene_still hs]
    exact ⟨hR, rfl, rfl⟩
  obtain ⟨hsame, hleft⟩ := hx.alike s.serving t.serving h _ _ hstart
  unfold take act
  rw [conditions_still hs ht]
  exact ⟨hsame, hleft.paired⟩

/-- A merge in two sessions that agree on the pull request: it ends in the same way, draws
    nothing, and changes nothing in both or merges in both. -/
theorem take_merge {t : Session} (hy : y.Makes (.merge q)) (hs : y.cue.Still)
    (ht : t.clock = s.clock) (h : Desk.AgreeOn q s.store t.store) :
    (t.take y).1 = (s.take y).1 ∧ (s.take y).2.1.generator = ⟨s.draws, 0⟩ ∧
      (t.take y).2.1.generator = ⟨t.draws, 0⟩ ∧
      (s.next y = s ∧ t.next y = t ∨
        s.next y = { s with store := Desk.merging q s.clock s.store } ∧
          t.next y = { t with store := Desk.merging q s.clock t.store }) := by
  have hnow : (s.conditions y.site.settings.engine y.cue).now = s.clock :=
    congrArg clock (arranged_still hs)
  have hdesk := Desk.merge_alike (c := s.conditions y.site.settings.engine y.cue)
    (a := (s.store, ⟨s.draws, 0⟩)) (b := (t.store, ⟨t.draws, 0⟩)) h
  rw [hnow] at hdesk
  obtain ⟨hsame, hpair⟩ := take_alike hy hs ht ⟨⟨rfl, rfl⟩, .inl ⟨rfl, rfl⟩⟩ hdesk
  have hkept : ∀ {u : Session} {store : Store}, (u.take y).2.1.store = store →
      (u.take y).2.1.generator = ⟨u.draws, 0⟩ → u.next y = { u with store } := by
    intro u store hstore hdraws
    rw [next_still hy hs, hstore, hdraws]
  obtain ⟨hgs, hgt⟩ := hpair.draws
  refine ⟨hsame, hgs, hgt, hpair.stores.imp (fun hst => ?_) fun hst => ?_⟩
  · exact ⟨hkept hst.1 hgs, hkept hst.2 hgt⟩
  · exact ⟨hkept hst.1 hgs, hkept hst.2 hgt⟩

/-- **A step and a merge interchange.**  Of two steps at the same time, one merges a pull
    request and the other leaves that pull request alone: in either order both end as they
    end in the other, they draw the same, and what they leave is the same. -/
theorem Reachable.merge_interchanges (h : s.Reachable engine) (hxs : x.cue.Still)
    (hys : y.cue.Still) (hmerge : y.Makes (.merge q)) (hmakes : x.Makes r)
    (hapart : r.ApartFrom q) :
    (s.next x).next y = (s.next y).next x ∧
      ((s.next y).take x).1 = (s.take x).1 ∧ ((s.next x).take y).1 = (s.take y).1 ∧
      ((s.next y).take x).2.1.generator = (s.take x).2.1.generator ∧
      (s.take y).2.1.generator.taken = 0 ∧ ((s.next x).take y).2.1.generator.taken = 0 := by
  have hagree : Desk.AgreeOn q s.store (s.next x).store := by
    rcases take_of_ends (hmakes.agrees hapart h.sound) with ⟨_, -, hends⟩ | ⟨_, -, hends⟩
    · exact hends
    · exact hends
  have hclock : (s.next x).clock = s.clock := by rw [next_still hmakes hxs]
  obtain ⟨hsame, hgs, hgt, hnext⟩ := take_merge hmerge hys hclock hagree
  have hpast : (s.next x).next y = (s.next y).next x ∧ ((s.next y).take x).1 = (s.take x).1 ∧
      ((s.next y).take x).2.1.generator = (s.take x).2.1.generator := by
    rcases hnext with ⟨hs, ht⟩ | ⟨hs, ht⟩
    · rw [hs, ht]
      exact ⟨rfl, rfl, rfl⟩
    · have hstart : Passing (Desk.merging q s.clock) (s.store, ⟨s.draws, 0⟩)
          ((s.next y).store, ⟨(s.next y).draws, 0⟩) := by rw [hs]; rfl
      obtain ⟨hfirst, hpair⟩ := take_alike hmakes hxs (by rw [hs]) hstart
        (Desk.performAny_past hapart _)
      obtain ⟨hstore, hdrawn⟩ := Prod.mk.inj hpair
      refine ⟨?_, hfirst, hdrawn⟩
      rw [ht, next_still hmakes hxs, next_still hmakes hxs, hstore, hdrawn, hs]
  obtain ⟨hcommute, hfirst, hdrawn⟩ := hpast
  rw [hgs, hgt]
  exact ⟨hcommute, hfirst, hsame, hdrawn, rfl, rfl⟩

/-- A pull request is opened and another one merged; each changes the store. -/
theorem merge_interchanges_opening :
    let s := blank.along opening
    let x : Step := { action := .desk (.openPull (.text "p2") (.text "Next") (.text "eve")) }
    let y : Step := { action := .service (.merge (.text "p1")) }
    (s.next x).next y = (s.next y).next x ∧ ((s.next y).take x).1 = (s.take x).1 ∧
      ((s.next x).take y).1 = (s.take y).1 ∧ s.store ≠ (s.next x).store ∧
      s.store ≠ (s.next y).store := by
  have hall := reachable_opening.merge_interchanges
    (x := { action := .desk (.openPull (.text "p2") (.text "Next") (.text "eve")) })
    (y := { action := .service (.merge (.text "p1")) }) (q := .text "p1")
    ⟨rfl, rfl, rfl⟩ ⟨rfl, rfl, rfl⟩ (.inr rfl) (.inl rfl) (show Argument.text "p2" ≠ _ by decide)
  obtain ⟨hcommute, hfirst, hsecond, -⟩ := hall
  refine ⟨hcommute, hfirst, hsecond, ?_, ?_⟩ <;> decide +kernel

end Session

end

end ReviewRota
