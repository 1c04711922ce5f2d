/-
  ReviewRota — plain operations.

  All that the service does is put together from a few primitives, in a few ways.  Such an
  operation comes upon the fault only where it reaches a call, and it passes on every
  failure as it is, except that a key is taken.  What is to be shown of all that the
  service does is shown of the primitives and of the ways of putting them together.

  * `StoreCall.taken?`: the refusal that stands for a duplicate key, at the two calls that
    store a row of a new key;
  * `Op.Plain`: an operation that is put together so; `Plain.query` to `Plain.foldlM` are
    the rules for what stands between the primitives and the desk;
  * `Desk.performAny_plain` and `Service.perform_plain`: whatever is asked.
-/
import ReviewRota.Proofs.Outcome
import ReviewRota.Service

namespace ReviewRota

variable {α β : Type}

/-- The conditions without the fault. -/
def Conditions.faultless (c : Conditions) : Conditions := { c with fault := none }

/-- The conditions with nothing bound to the log. -/
def Conditions.unlogged (c : Conditions) : Conditions := { c with context := {} }

/-- The scene with nothing in the log. -/
def Scene.unlogged (s : Scene) : Scene := { s with log := [] }

/-- The refusal that a caller gets for a duplicate key, where a call may meet one. -/
def StoreCall.taken? : StoreCall → Option Cause
  | addTeam => some .teamExists
  | addPull => some .pullExists
  | _ => none

/-- No call has been made since, and no draw taken. -/
def Scene.Beside (s t : Scene) : Prop := t.calls = s.calls ∧ t.generator = s.generator

namespace Op

/-- The operation makes no call and takes no draw. -/
def Still (op : Op α) : Prop := ∀ c s, op.Ends c s (fun _ t => s.Beside t) fun _ t => s.Beside t

/-- The operation never goes on after the failure that it is given, nor does it replace it. -/
def Rethrows (h : Failure → Op α) : Prop :=
  ∀ e c s, (h e).Ends c s (fun _ _ => False) fun e' _ => e' = e

/-- The operation is put together from primitives.  It looks at the conditions but for the
    fault and the log, at the scene but for the log, and writes the store; what it reports
    comes from a component of the service. -/
inductive Plain : {α : Type} → Op α → Prop
  | pure {α : Type} (a : α) : Plain (pure a)
  | throw {α : Type} (e : Failure) : Plain (throw e : Op α)
  | report {e : Log.Event} : e.component?.isSome → Plain (report e)
  | reading {α : Type} {f : Conditions → Op α} : (∀ c, f c.faultless.unlogged = f c) →
      (∀ c, Plain (f c)) → Plain (read >>= f)
  | getting {α : Type} {f : Scene → Op α} : (∀ s, f s.unlogged = f s) → (∀ s, Plain (f s)) →
      Plain (get >>= f)
  | modify {g : Scene → Scene} :
      (∀ s, s.Beside (g s) ∧ g s.unlogged = (g s).unlogged ∧ (g s).log = s.log) →
      Plain (modify g : Op Unit)
  | reach {call : StoreCall} : call.taken? = none → Plain (reach call)
  | sample (pool : List String) (k : Int) : Plain (drawing (.sample pool k))
  | choice (pool : List String) : Plain (drawing (.choice pool))
  | bind {α β : Type} {x : Op α} {f : α → Op β} : Plain x → (∀ a, Plain (f a)) → Plain (x >>= f)
  | rethrow {α : Type} {x : Op α} {h : Failure → Op α} : Plain x → (∀ e, Plain (h e)) →
      Rethrows h → Plain (tryCatch x h)
  | unlessTaken {α : Type} {call : StoreCall} {cause : Cause} {note : Op Unit} {f : Unit → Op α} :
      call.taken? = some cause →
      (note = Pure.pure () ∨ ∃ e : Log.Event, e.component?.isSome ∧ note = report e) →
      (∀ u, Plain (f u)) → (∀ u, (f u).Still) → Plain (unlessTaken cause note (Op.reach call >>= f))

namespace Plain

variable {x : Op α} {call : StoreCall}

theorem map (g : α → β) (hx : x.Plain) : (g <$> x).Plain := by
  rw [map_eq_pure_bind]
  exact hx.bind fun _ => .pure _

theorem ofExcept (r : Except Failure α) : (MonadExcept.ofExcept r : Op α).Plain := by
  cases r with
  | ok a => exact .pure a
  | error e => exact .throw e

theorem query {f : Store → α} (h : call.taken? = none) : (Op.query call f).Plain :=
  .bind (.reach h) fun _ => .getting (fun _ => rfl) fun _ => .pure _

theorem write {f : Store → Moment → Store} (h : call.taken? = none) : (Op.write call f).Plain :=
  .bind (.reach h) fun _ => .reading (fun _ => rfl) fun _ => .modify fun _ => ⟨⟨rfl, rfl⟩, rfl, rfl⟩

theorem attempt {f : Store → Moment → Except Failure Store} (h : call.taken? = none) :
    (Op.attempt call f).Plain :=
  .bind (.reach h) fun _ => .reading (fun _ => rfl) fun _ => .getting (fun _ => rfl) fun _ =>
    .bind (.ofExcept _) fun _ => .modify fun _ => ⟨⟨rfl, rfl⟩, rfl, rfl⟩

theorem limited (limit : Option Int) (l : List α) : (Op.limited limit l).Plain := by
  unfold Op.limited
  split
  · exact .pure l
  · split
    · exact .throw _
    · exact .pure _

theorem unitOfWork (hx : x.Plain) : (Op.unitOfWork x).Plain := by
  refine .bind (.reach rfl) fun _ => .getting (fun _ => rfl) fun _ =>
    .rethrow hx (fun e => ?_) fun e c s => ?_
  · exact .bind (.modify fun _ => ⟨⟨rfl, rfl⟩, rfl, rfl⟩) fun _ => .throw e
  · exact ends_bind.2 (ends_modify.2 (ends_throw.2 rfl))

theorem forM {f : α → Op Unit} {l : List α} (h : ∀ a, (f a).Plain) : (l.forM f).Plain := by
  induction l with
  | nil => exact .pure _
  | cons a l ih => exact (h a).bind fun _ => ih

theorem foldlM {f : β → α → Op β} {l : List α} {b : β} (h : ∀ b a, (f b a).Plain) :
    (l.foldlM f b).Plain := by
  induction l generalizing b with
  | nil => exact .pure _
  | cons a l ih => exact (h b a).bind fun _ => ih

end Plain

end Op

/-! ## The desk -/

namespace Desk

open Op

variable {id name team title author leaving : String}

theorem foundTeam_plain : (foundTeam name).Plain := by
  refine .unlessTaken rfl (.inl rfl) (fun _ => ?_) fun _ c s => ?_
  · exact .reading (fun _ => rfl) fun _ => .getting (fun _ => rfl) fun _ =>
      .bind (.ofExcept _) fun _ => .modify fun _ => ⟨⟨rfl, rfl⟩, rfl, rfl⟩
  · exact .bind (ends_read.2 (.bind (ends_get.2 (.bind
      (.ofExcept (fun _ _ => ends_modify.2 ⟨rfl, rfl⟩) fun _ _ => ⟨rfl, rfl⟩)))))

theorem createTeam_plain {members : List Member} : (createTeam name members).Plain := by
  refine .bind (.unitOfWork ?_) fun _ => .bind (.report rfl) fun _ => .pure _
  exact .bind foundTeam_plain fun _ => .bind (.forM fun _ => .write rfl) fun _ => .query rfl

theorem showTeam_plain : (showTeam name).Plain := by
  refine .unitOfWork (.bind (.query rfl) fun team => ?_)
  cases team with
  | none => exact .throw _
  | some team => exact .bind (.query rfl) fun _ => .pure _

theorem setUserActive_plain {active : Bool} : (setUserActive id active).Plain := by
  refine .bind (.unitOfWork (.bind (.query rfl) fun user => ?_)) fun _ =>
    .bind (.report rfl) fun _ => .pure _
  cases user with
  | none => exact .throw _
  | some user =>
    exact .reading (fun _ => rfl) fun _ => .bind (.modify fun _ => ⟨⟨rfl, rfl⟩, rfl, rfl⟩) fun _ => .pure _

theorem listReviews_plain {limit : Option Int} : (Op.listReviews id limit).Plain :=
  .bind (.query rfl) fun _ => .limited _ _

theorem reviewsOf_plain : (reviewsOf id).Plain :=
  .unitOfWork (.bind listReviews_plain fun _ => .pure _)

/-- A new pull request, or the news that its id is taken. -/
theorem addPull_plain : (unlessTaken .pullExists (report (.pullDuplicate (some id)))
    (addPull id title author)).Plain := by
  refine .unlessTaken rfl (.inr ⟨_, rfl, rfl⟩) (fun _ => ?_) fun _ c s => ?_
  · exact .reading (fun _ => rfl) fun _ => .getting (fun _ => rfl) fun _ =>
      .bind (.ofExcept _) fun _ => .bind (.modify fun _ => ⟨⟨rfl, rfl⟩, rfl, rfl⟩) fun _ => .pure _
  · exact .bind (ends_read.2 (.bind (ends_get.2 (.bind (.ofExcept
      (fun _ _ => .bind (ends_modify.2 ⟨rfl, rfl⟩)) fun _ _ => ⟨rfl, rfl⟩)))))

theorem openPull_plain : (openPull id title author).Plain := by
  refine .bind (.unitOfWork (.bind (.query rfl) fun user => ?_)) fun _ =>
    .bind (.report rfl) fun _ => .pure _
  cases user with
  | none => exact .throw _
  | some user =>
    dsimp only
    split
    · exact .throw _
    · exact .bind addPull_plain fun _ => .bind (.query rfl) fun _ =>
        .reading (fun _ => rfl) fun _ => .bind (.sample _ _) fun _ =>
        .bind (.forM fun _ => .attempt rfl) fun _ => .pure _

theorem unassign_plain : (Op.unassign id leaving).Plain :=
  .bind (.query rfl) fun _ => .bind (.modify fun _ => ⟨⟨rfl, rfl⟩, rfl, rfl⟩) fun _ => .pure _

theorem replaceReviewer_plain : (replaceReviewer id leaving).Plain := by
  refine .bind (.unitOfWork (.bind (.query rfl) fun pull => ?_)) fun _ =>
    .bind (.report rfl) fun _ => .pure _
  cases pull with
  | none => exact .throw _
  | some pull =>
  dsimp only
  split
  next => exact .throw _
  next =>
  refine .bind (.query rfl) fun _ => ?_
  split
  next => exact .bind (.report rfl) fun _ => .throw _
  next =>
  refine .bind (.query rfl) fun user => ?_
  cases user with
  | none => exact .throw _
  | some user =>
  refine .bind (.query rfl) fun _ => .bind (.choice _) fun joining => ?_
  cases joining with
  | none => exact .throw _
  | some joining =>
    exact .bind unassign_plain fun _ => .bind (.attempt rfl) fun _ =>
      .bind (.write rfl) fun _ => .pure _

theorem transition_plain {pull : PullRequest} {target : Status} :
    (transition pull target).Plain := by
  unfold transition
  dsimp only
  split
  · exact .throw _
  · exact .reading (fun _ => rfl) fun _ => .bind (.modify fun _ => ⟨⟨rfl, rfl⟩, rfl, rfl⟩) fun _ =>
      .bind (.report rfl) fun _ => .pure _

theorem merge_plain : (merge id).Plain := by
  refine .bind (.unitOfWork (.bind (.query rfl) fun pull => ?_)) fun _ =>
    .bind (.report rfl) fun _ => .pure _
  cases pull with
  | none => exact .throw _
  | some pull =>
    dsimp only
    split
    · exact .bind (.pure _) fun _ => .bind (.query rfl) fun _ => .pure _
    · exact .bind transition_plain fun _ => .bind (.query rfl) fun _ => .pure _

theorem repairSlot_plain {pull : PullRequest} :
    (repairSlot team pull leaving).Plain := by
  refine .bind unassign_plain fun _ => .bind (.query rfl) fun _ => .bind (.query rfl) fun _ =>
    .bind (.choice _) fun joining => ?_
  cases joining with
  | none => exact .bind (.write rfl) fun _ => .bind (.report rfl) fun _ => .pure _
  | some joining =>
    exact .bind (.attempt rfl) fun _ => .bind (.write rfl) fun _ => .bind (.report rfl) fun _ =>
      .pure _

/-- However many reviews are repaired, every repair is one of the places where the call
    that goes wrong may be met. -/
theorem deactivateTeam_plain : (deactivateTeam name).Plain := by
  refine .bind (.unitOfWork (.bind (.query rfl) fun found => ?_)) fun _ =>
    .bind (.report rfl) fun _ => .pure _
  cases found with
  | none => exact .throw _
  | some found =>
  refine .bind (.bind (.query rfl) fun _ => .reading (fun _ => rfl) fun _ =>
    .bind (.modify fun _ => ⟨⟨rfl, rfl⟩, rfl, rfl⟩) fun _ => .pure _) fun gone => ?_
  split
  next => exact .pure _
  next =>
  have hpull : ∀ d pull, (repairPull found.name gone d pull).Plain := fun d pull =>
    .bind (.query rfl) fun _ => .foldlM fun _ _ => .bind repairSlot_plain fun _ => .pure _
  exact .bind (.query rfl) fun _ => .bind (.foldlM hpull) fun _ => .pure _

theorem countByReviewer_plain {w : Window} {limit : Option Int} :
    (Op.countByReviewer w limit).Plain :=
  .bind (.query rfl) fun _ => .limited _ _

theorem overview_plain : overview.Plain :=
  .bind (.unitOfWork (.bind countByReviewer_plain fun _ => .bind (.query rfl) fun _ =>
    .bind (.query rfl) fun _ => .bind (.query rfl) fun _ => .pure _)) fun _ => .pure _

theorem summary_plain {f : SummaryFilter} : (summary f).Plain :=
  .unitOfWork (.reading (fun _ => rfl) fun _ => .bind countByReviewer_plain fun _ =>
    .bind (.query rfl) fun _ => .bind (.query rfl) fun _ => .pure _)

theorem reviewerReport_plain {limit : Int} : (reviewerReport id limit).Plain := by
  refine .unitOfWork (.bind (.query rfl) fun user => ?_)
  cases user with
  | none => exact .throw _
  | some user =>
    exact .bind (.query rfl) fun _ => .reading (fun _ => rfl) fun _ =>
      .bind listReviews_plain fun _ => .pure _

theorem pullReport_plain : (pullReport id).Plain := by
  refine .unitOfWork (.bind (.query rfl) fun pull => ?_)
  cases pull with
  | none => exact .throw _
  | some pull => exact .bind (.query rfl) fun _ => .bind (.query rfl) fun _ => .pure _

/-! ### Requests that lack a text -/

section
variable {call : StoreCall} {cause : Cause} {a : Argument} {table : String} {l : List Argument}

theorem consult_plain (h : call.taken? = none) : (consult call a).Plain := by
  refine .bind (.reach h) fun _ => ?_
  cases a.obstacle? with
  | none => exact .pure _
  | some f => exact .throw f

theorem absent_plain (h : call.taken? = none) : (absent call cause a : Op α).Plain :=
  .unitOfWork (.bind (consult_plain h) fun _ => .throw _)

theorem notStored_plain (h : call.taken? = none) : (notStored call table l : Op α).Plain :=
  .bind (.reach h) fun _ => .throw _

/-- A row of a new key that is not stored for another reason. -/
theorem notTaken_plain {note : Op Unit} (h : call.taken? = some cause)
    (hn : note = Pure.pure () ∨ ∃ e : Log.Event, e.component?.isSome ∧ note = report e) :
    (unlessTaken cause note (notStored call table l : Op α)).Plain :=
  .unlessTaken h hn (fun _ => .throw _) fun _ _ _ => ⟨rfl, rfl⟩

end

theorem createWith_plain {members : List (MemberEntry Argument)} :
    (createWith name members).Plain := by
  refine .unitOfWork (.bind foundTeam_plain fun _ => .bind (.forM fun m => ?_) fun _ =>
    .bind (.query rfl) fun _ => .pure _)
  unfold putEntry
  cases m.complete? with
  | some m => exact .write rfl
  | none => exact notStored_plain rfl

theorem openUnnamed_plain {pull title : Argument} :
    (openUnnamed pull title author).Plain := by
  refine .unitOfWork (.bind (.query rfl) fun user => ?_)
  cases user with
  | none => exact .throw _
  | some user =>
    dsimp only
    split
    · exact .throw _
    · exact notTaken_plain rfl (.inr ⟨_, rfl, rfl⟩)

theorem replaceUnnamed_plain {leaving : Argument} : (replaceUnnamed id leaving).Plain := by
  refine .unitOfWork (.bind (.query rfl) fun pull => ?_)
  cases pull with
  | none => exact .throw _
  | some pull =>
    dsimp only
    split
    · exact .throw _
    · exact .bind (.query rfl) fun _ => .bind (.report rfl) fun _ => .throw _

theorem performIncomplete_plain {r : Request Argument} : (performIncomplete r).Plain := by
  cases r with
  | createTeam team =>
    cases team with
    | text => exact createWith_plain
    | missing | broken => exact .unitOfWork (notTaken_plain rfl (.inl rfl))
  | reviewsOf => exact .unitOfWork (.bind (consult_plain rfl) fun _ => .pure _)
  | openPull _ _ author =>
    cases author with
    | text => exact openUnnamed_plain
    | missing | broken => exact absent_plain rfl
  | replaceReviewer pull =>
    cases pull with
    | text => exact replaceUnnamed_plain
    | missing | broken => exact absent_plain rfl
  | overview => exact overview_plain.map _
  | summary => exact summary_plain.map _
  | showTeam | setUserActive | merge | deactivateTeam | reviewerReport | pullReport =>
    exact absent_plain rfl

/-! ### All requests -/

theorem perform_plain {r : Request String} : (perform r).Plain := by
  cases r with
  | createTeam => exact createTeam_plain.map _
  | showTeam => exact showTeam_plain.map _
  | setUserActive => exact setUserActive_plain.map _
  | reviewsOf => exact reviewsOf_plain.map _
  | openPull => exact openPull_plain.map _
  | replaceReviewer => exact replaceReviewer_plain.bind fun _ => .pure _
  | merge => exact merge_plain.map _
  | deactivateTeam => exact deactivateTeam_plain.map _
  | overview => exact overview_plain.map _
  | summary => exact summary_plain.map _
  | reviewerReport => exact reviewerReport_plain.map _
  | pullReport => exact pullReport_plain.map _

theorem performAny_plain {r : Request Argument} : (performAny r).Plain := by
  unfold performAny
  cases r.complete? with
  | some r => exact perform_plain
  | none => exact performIncomplete_plain

theorem moveAny_plain {pull : Argument} {target : Status} : (moveAny pull target).Plain := by
  cases pull with
  | text id =>
    refine .unitOfWork (.bind (.query rfl) fun pull => ?_)
    cases pull with
    | none => exact .throw _
    | some pull => exact .bind transition_plain fun _ => .pure _
  | missing | broken => exact .unitOfWork (.bind (consult_plain rfl) fun _ => .throw _)

end Desk

/-! ## The service -/

namespace Service

/-- What the service does is plain, whether the time runs out or not. -/
theorem perform_plain {r : Request Argument} : (perform r).Plain := by
  cases h : r.objection? with
  | some e =>
    rw [perform_refused h]
    exact .throw _
  | none =>
    rw [perform_passed h]
    refine .rethrow (.reading (fun _ => rfl) fun c => ?_) (fun e => ?_) fun e c s => ?_
    · split
      · exact Desk.performAny_plain
      · exact .throw _
    · dsimp only
      split
      · exact .reading (fun _ => rfl) fun _ => .bind (.report rfl) fun _ => .throw _
      · exact .throw _
    · dsimp only
      split
      · exact .bind (Op.ends_read.2 (.bind (.report fun _ => rfl)))
      · exact rfl

end Service

end ReviewRota
