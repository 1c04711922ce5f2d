/-
  ReviewRota — requests that the store cannot take.

  While no call goes wrong and no draw fails, whatever is sent from outside should be
  answered, or be refused with the status of a fault of the client.  Nearly everything is.
  What the checks in front of the store let through, and the store cannot hold, ends as an
  error of the server: a text with halves of surrogate pairs that is to be written or
  looked up, and a limit of more than 64 bits.

  * `Request.Overtaxes`: a request that comes to such a value;
  * `Op.Mild`: an operation that in calm fails only by the fault of the client, with a rule
    for each primitive; `Desk.createTeam_mild` to `Desk.replaceUnnamed_mild` say so of the
    operations of the desk, and the lemmas after them say what ends in another way;
  * `Desk.performAny_mild` and `Desk.performAny_overtaxed`: every request that is let
    through is of one kind or of the other;
  * `Session.Reachable.server_errors`: which requests from outside end as an error of the
    server, and `Session.server_errors_limit`: that one does.
-/
import ReviewRota.Proofs.Forms
import ReviewRota.Proofs.Foundings
import ReviewRota.Proofs.Openings
import ReviewRota.Proofs.Replacements
import ReviewRota.Proofs.Trimmed

namespace ReviewRota

variable {α β : Type} {c : Conditions} {s t : Scene}

/-! ## What is too much -/

/-- The request comes to a value that the store cannot take: a text that is none, where a
    row is looked up or written, or a limit that does not fit 64 bits. -/
def Request.Overtaxes (usual : Int) (s : Store) : Request Argument → Prop
  | createTeam (.text team) members => s.team? team = none ∧ ∃ m ∈ members, m.complete? = none
  | openPull pull title (.text author) =>
    (∃ u ∈ s.users, u.id = author ∧ u.active = true) ∧ (pull.text? = none ∨ title.text? = none)
  | reviewerReport (.text user) limit =>
    s.Knows user ∧ Moment.isWord (limitOr usual limit) = false
  | summary filter => Moment.isWord (limitOr usual filter.limit) = false
  | overview => False
  | createTeam a _ | showTeam a | setUserActive a _ | reviewsOf a | openPull _ _ a
  | replaceReviewer a _ | merge a | deactivateTeam a | reviewerReport a _ | pullReport a =>
    a.text? = none

/-! ## Operations that fail by the fault of the client alone -/

/-- The failure is told as the fault of the client. -/
def Failure.Mild (e : Failure) : Prop := (Http.replyTo e).status < 500

/-- The failure is told as an error of the server. -/
def Failure.Grave (e : Failure) : Prop := (Http.replyTo e).status = 500

theorem Failure.mild_of_refused {r : Refusal} (h : Http.statusOf r.cause < 500) :
    (Failure.refused r).Mild := h

namespace Op

/-- Where it is calm, it stays so, and the operation fails only by the fault of the client. -/
def Mild (c : Conditions) (op : Op α) : Prop :=
  ∀ s, c.Calm s → op.Ends c s (fun _ t => c.Calm t) fun e _ => e.Mild

namespace Mild

variable {x : Op α} {f : α → Op β} {call : StoreCall}

theorem pure (a : α) : Mild c (pure a : Op α) := fun _ h => h

theorem refuse {cause : Cause} (h : Http.statusOf cause < 500) : Mild c (refuse cause : Op α) :=
  fun _ _ => ends_refuse.2 h

theorem report (e : Log.Event) : Mild c (Op.report e) := fun _ h => .report fun _ => h

theorem reading {f : Conditions → Op α} (h : Mild c (f c)) : Mild c (read >>= f) :=
  fun s hs => ends_bind.2 (ends_read.2 (h s hs))

theorem modify {g : Scene → Scene} (h : ∀ s, (g s).generator = s.generator) :
    Mild c (modify g : Op Unit) := by
  intro s hs
  refine ends_modify.2 ⟨hs.1, ?_⟩
  rw [h]
  exact hs.2

theorem reach : Mild c (Op.reach call) :=
  fun _ hs => .reach (fun _ => hs) hs.spared

theorem query {f : Store → α} : Mild c (Op.query call f) :=
  fun _ hs => .query (fun _ => hs) hs.spared

theorem write {f : Store → Moment → Store} : Mild c (Op.write call f) :=
  fun _ hs => .write (fun _ => hs) hs.spared

theorem bind (hx : Mild c x) (hf : ∀ a, Mild c (f a)) : Mild c (x >>= f) := fun s hs =>
  ends_bind.2 ((hx s hs).mono (fun a t ht => hf a t ht) fun _ _ h => h)

theorem map (g : α → β) (hx : Mild c x) : Mild c (g <$> x) := fun s hs => ends_map.2 (hx s hs)

theorem unitOfWork (hx : Mild c x) : Mild c (Op.unitOfWork x) := fun s hs =>
  .unitOfWork (fun calls => (hx { s with calls } hs).mono (fun _ _ h => h) fun _ _ h => h) hs.spared

theorem forM {f : α → Op Unit} {l : List α} (h : ∀ a, Mild c (f a)) : Mild c (l.forM f) := by
  induction l with
  | nil => exact .pure _
  | cons a l ih => exact (h a).bind fun _ => ih

/-- A limit is kept if it fits. -/
theorem limited {limit : Option Int} {l : List α} (h : ∀ n ∈ limit, Moment.isWord n = true) :
    Mild c (Op.limited limit l) := by
  cases limit with
  | none => exact .pure l
  | some n =>
    rw [limited_eq_pure (h n rfl)]
    exact .pure _

end Mild

/-- A refusal of the client's fault is mild, whatever would be to be shown otherwise. -/
theorem Refuses.calm {op : Op α} {r : Refusal} {done : α → Scene → Prop} (h : op.Refuses c s r)
    (hr : Http.statusOf r.cause < 500) : op.Ends c s done fun e _ => e.Mild :=
  h.mono (fun _ _ => False.elim) fun _ _ h => h.1 ▸ Failure.mild_of_refused hr

end Op

/-! ## The desk -/

namespace Desk

open Op Store

variable {id name title author leaving team : String}

theorem foundTeam_calm (hc : c.Calm s) : (foundTeam name).Ends c s
    (fun _ t => c.Calm t ∧ s.store.team? name = none)
    fun e _ => e.Mild ∧ s.store.team? name ≠ none := by
  by_cases hn : s.store.team? name = none
  · refine (foundTeam_free hc.1 hn).mono (fun _ t ht => ⟨⟨hc.1, ?_⟩, hn⟩) fun _ _ => False.elim
    rw [ht]
    exact hc.2
  · refine (foundTeam_taken hc.1 hn).mono (fun _ _ => False.elim) ?_
    rintro e t ⟨rfl, -, -⟩
    exact ⟨Failure.mild_of_refused (by decide), hn⟩

theorem foundTeam_mild : Op.Mild c (foundTeam name) := fun _ hs =>
  (foundTeam_calm hs).mono (fun _ _ h => h.1) fun _ _ h => h.1

theorem createTeam_mild {members : List Member} : Op.Mild c (createTeam name members) :=
  .bind (.unitOfWork (.bind foundTeam_mild fun _ => .bind (.forM fun _ => .write) fun _ => .query))
    fun _ => .bind (.report _) fun _ => .pure _

theorem showTeam_mild : Op.Mild c (showTeam name) := by
  refine .unitOfWork (.bind .query fun team => ?_)
  cases team with
  | none => exact .refuse (by decide)
  | some team => exact .bind .query fun _ => .pure _

theorem setUserActive_mild {active : Bool} : Op.Mild c (setUserActive id active) := by
  refine .bind (.unitOfWork (.bind .query fun user => ?_)) fun _ =>
    .bind (.report _) fun _ => .pure _
  cases user with
  | none => exact .refuse (by decide)
  | some user => exact .reading (.bind (.modify fun _ => rfl) fun _ => .pure _)

theorem reviewsOf_mild : Op.Mild c (reviewsOf id) :=
  .unitOfWork (.bind (.bind .query fun _ => .limited nofun) fun _ => .pure _)

theorem merge_mild : Op.Mild c (merge id) := by
  refine .bind (.unitOfWork (.bind .query fun pull => ?_)) fun _ =>
    .bind (.report _) fun _ => .pure _
  cases pull with
  | none => exact .refuse (by decide)
  | some pull =>
    dsimp only
    split
    next => exact .bind (.pure _) fun _ => .bind .query fun _ => .pure _
    next hm =>
      refine .bind (fun s hs => ?_) fun _ => .bind .query fun _ => .pure _
      exact (ends_transition (Status.eq_opened hm)).2 hs

theorem overview_mild : Op.Mild c overview :=
  .bind (.unitOfWork (.bind (.bind .query fun _ => .limited nofun) fun _ => .bind .query fun _ =>
    .bind .query fun _ => .bind .query fun _ => .pure _)) fun _ => .pure _

theorem summary_mild {f : SummaryFilter}
    (h : Moment.isWord (limitOr c.settings.defaultLimit f.limit) = true) :
    Op.Mild c (summary f) := by
  refine .unitOfWork (.reading (.bind (.bind .query fun _ => .limited ?_) fun _ =>
    .bind .query fun _ => .bind .query fun _ => .pure _))
  intro n hn
  rwa [← Option.some.inj hn]

theorem pullReport_mild : Op.Mild c (pullReport id) := by
  refine .unitOfWork (.bind .query fun pull => ?_)
  cases pull with
  | none => exact .refuse (by decide)
  | some pull => exact .bind .query fun _ => .bind .query fun _ => .pure _

theorem reviewerReport_calm {limit : Int} (hc : c.Calm s)
    (h : s.store.Knows id → Moment.isWord (limitOr c.settings.defaultLimit limit) = true) :
    (reviewerReport id limit).Ends c s (fun _ t => c.Calm t) fun e _ => e.Mild := by
  refine .unitOfWork (fun _ => .bind (.query (fun _ => ?_) hc.spared)) hc.spared
  cases hu : s.store.user? id with
  | none => exact ends_refuse.2 (Failure.mild_of_refused (by decide))
  | some user =>
    have hword := h ⟨user, mem_of_user? hu⟩
    refine (Mild.bind .query fun _ => .reading (.bind (.bind .query fun _ => .limited ?_) fun _ =>
      .pure _)) _ hc
    intro n hn
    rwa [← Option.some.inj hn]

theorem openPull_calm (hs : s.store.Sound) (hc : c.Calm s) : (openPull id title author).Ends c s
    (fun _ t => c.Calm t) fun e _ => e.Mild := by
  cases hu : s.store.user? author with
  | none => exact (openPull_unknown hc hu).calm (by decide)
  | some user =>
  cases ha : user.active with
  | false => exact (openPull_inactive hc hu ha).calm (by decide)
  | true =>
  cases hid : s.store.pull? id with
  | some p => exact (openPull_taken hc hu ha (hid ▸ nofun)).calm (by decide)
  | none =>
    exact (openPull_picked hs hc hu ha hid (Drawing.sample_spec.mono (fun _ _ h => h.2.2)
      fun _ _ h => h hc.2)).mono (fun _ _ hsuf => ⟨hc.1, hc.2.suffix hsuf⟩) fun _ _ => False.elim

theorem replaceReviewer_calm (hc : c.Calm s) : (replaceReviewer id leaving).Ends c s
    (fun _ t => c.Calm t) fun e _ => e.Mild := by
  cases hp : s.store.pull? id with
  | none => exact (replaceReviewer_unknown hc hp).calm (by decide)
  | some p =>
  cases hstatus : p.status with
  | merged => exact (replaceReviewer_merged hc hp hstatus).calm (by decide)
  | opened =>
  by_cases hl : leaving ∈ s.store.reviewers id
  · cases hu : s.store.user? leaving with
    | none => exact (replaceReviewer_unlisted hc hp hstatus hl hu).calm (by decide)
    | some user =>
      refine (replaceReviewer_picked hc hp hstatus hl hu (Drawing.choice_spec.mono
        (fun _ _ h => h.2) fun _ _ h => h hc.2)).mono (fun _ _ hsuf => ⟨hc.1, hc.2.suffix hsuf⟩) ?_
      rintro _ _ ⟨rfl, -⟩
      exact Failure.mild_of_refused (by decide)
  · exact (replaceReviewer_stranger hc hp hstatus hl).calm (by decide)

theorem deactivateTeam_calm (hs : s.store.Sound) (hc : c.Calm s) : (deactivateTeam team).Ends c s
    (fun _ _ => True) fun e _ => e.Mild := by
  cases hteam : s.store.team? team with
  | none =>
    refine (deactivateTeam_unknown hteam).mono (fun _ _ => False.elim) fun e _ h => ?_
    rw [h.2 hc]
    exact Failure.mild_of_refused (by decide)
  | some found =>
    refine (deactivateTeam_ends hs).mono (fun _ _ _ => trivial) fun e _ h => ?_
    rw [h.2 hc] at hteam
    cases hteam

theorem replaceUnnamed_mild {leaving : Argument} : Op.Mild c (replaceUnnamed id leaving) := by
  refine .unitOfWork (.bind .query fun pull => ?_)
  cases pull with
  | none => exact .refuse (by decide)
  | some pull =>
    dsimp only
    split
    · exact .refuse (by decide)
    · exact .bind .query fun _ => .bind (.report _) fun _ => .refuse (by decide)

/-! ## Values that are too much -/

theorem ofBroken_grave {ps : List Text.Point} :
    (Failure.ofBroken ps).Grave ∧ (Failure.ofBroken ps).isDuplicate = false := by
  unfold Failure.ofBroken
  split
  · exact ⟨rfl, rfl⟩
  · exact ⟨rfl, rfl⟩

theorem obstacle_grave {table : String} {l : List Argument} :
    (Argument.obstacle table l).Grave ∧
      ((StoreFailure.missingValue table).isUniqueViolation = false →
        (Argument.obstacle table l).isDuplicate = false) := by
  unfold Argument.obstacle
  cases hfound : l.findSome? Argument.obstacle? with
  | none => exact ⟨rfl, fun h => by simp [Failure.isDuplicate, h]⟩
  | some e =>
    obtain ⟨a, -, ha⟩ := List.exists_of_findSome?_eq_some hfound
    cases a with
    | broken ps =>
      obtain rfl := Option.some.inj ha
      exact ⟨ofBroken_grave.1, fun _ => ofBroken_grave.2⟩
    | missing | text => cases ha

theorem broken_of_text? {a : Argument} (h : a.text? = none) (hblank : a.isBlank = false) :
    ∃ ps, a = .broken ps := by
  cases a with
  | missing => cases hblank
  | text => cases h
  | broken ps => exact ⟨ps, rfl⟩

theorem consult_grave {call : StoreCall} {ps : List Text.Point} (hc : c.Calm s) :
    (consult call (.broken ps)).Ends c s (fun _ _ => False) fun e _ => e.Grave :=
  .bind (.reach (fun _ => ends_throw.2 ofBroken_grave.1) hc.spared)

theorem absent_grave {call : StoreCall} {cause : Cause} {ps : List Text.Point} (hc : c.Calm s) :
    (absent call cause (.broken ps) : Op α).Ends c s (fun _ _ => False) fun e _ => e.Grave :=
  .unitOfWork (fun calls => .bind ((consult_grave (s := { s with calls }) hc).mono
    (fun _ _ => False.elim) fun _ _ h => h)) hc.spared

/-- What cannot be stored is not taken for a key that is there. -/
theorem notStored_grave {call : StoreCall} {cause : Cause} {note : Op Unit} {table : String}
    {l : List Argument} (hc : c.Calm s)
    (htable : (StoreFailure.missingValue table).isUniqueViolation = false) :
    (unlessTaken cause note (notStored call table l : Op α)).Ends c s (fun _ _ => False)
      fun e _ => e.Grave := by
  refine ends_unlessTaken.2 (.bind (.reach (fun _ => ends_throw.2 ?_) hc.spared))
  rw [if_neg (by rw [obstacle_grave.2 htable]; exact Bool.false_ne_true)]
  exact obstacle_grave.1

/-- The first entry that is not complete ends the loop. -/
theorem putEntries_grave {members : List (MemberEntry Argument)} (hc : c.Calm s)
    (h : ∃ m ∈ members, m.complete? = none) :
    (members.forM (putEntry team)).Ends c s (fun _ _ => False) fun e _ => e.Grave := by
  have hloop : (members.forM (putEntry team)).Ends c s (fun _ t => c.Calm t)
      fun e _ => e.Grave := by
    refine Ends.forM (I := fun _ t => c.Calm t) (fun m _ t ht => ?_) hc
    unfold putEntry
    cases m.complete? with
    | some m => exact .write (fun _ => ht) ht.spared
    | none =>
      exact .bind (.reach (fun _ => ends_throw.2 obstacle_grave.1) ht.spared)
  refine (hloop.and putEntries_ends).mono (fun _ _ hall => ?_) fun _ _ h => h.1
  obtain ⟨m, hm, hnone⟩ := h
  have hsome := hall.2 m hm
  rw [hnone] at hsome
  cases hsome

/-- Members of whom one is incomplete make no team. -/
theorem createWith_calm {members : List (MemberEntry Argument)} (hc : c.Calm s)
    (h : ∃ m ∈ members, m.complete? = none) : (createWith name members).Ends c s
      (fun _ _ => False) fun e _ =>
        (s.store.team? name = none → e.Grave) ∧ (s.store.team? name ≠ none → e.Mild) := by
  refine .unitOfWork (fun calls => .bind (Ends.mono (foundTeam_calm (s := { s with calls }) hc)
    (fun _ t ht => ?_) fun e _ he => ?_)) hc.spared
  · refine .bind ((putEntries_grave ht.1 h).mono (fun _ _ => False.elim) fun e _ he => ?_)
    exact ⟨fun _ => he, fun hteam => absurd ht.2 hteam⟩
  · exact ⟨fun hn => absurd hn he.2, fun _ => he.1⟩

/-- A pull request that lacks its id or its title is not opened. -/
theorem openUnnamed_calm {pull title : Argument} (hs : s.store.Sound) (hc : c.Calm s) :
    (openUnnamed pull title author).Ends c s (fun _ _ => False) fun e _ =>
      ((∃ u ∈ s.store.users, u.id = author ∧ u.active = true) → e.Grave) ∧
      ((¬ ∃ u ∈ s.store.users, u.id = author ∧ u.active = true) → e.Mild) := by
  refine .unitOfWork (fun _ => .bind (.query (fun calls => ?_) hc.spared)) hc.spared
  cases hu : s.store.user? author with
  | none =>
    refine ends_refuse.2 ⟨fun ⟨u, hmem, hid, _⟩ => ?_, fun _ => Failure.mild_of_refused (by decide)⟩
    exact absurd hid (user?_eq_none_iff.1 hu u hmem)
  | some user =>
    obtain ⟨hmem, rfl⟩ := mem_of_user? hu
    dsimp only
    split
    next ha =>
      refine ends_throw.2 ⟨fun ⟨u, hu, hid, hactive⟩ => ?_, fun _ =>
        Failure.mild_of_refused (by decide)⟩
      obtain rfl := hs.user_eq hu hmem hid
      rw [hactive] at ha
      cases ha
    next ha =>
      have hactive : user.active = true := by simpa using ha
      refine Ends.mono (notStored_grave (s := { s with calls }) hc (by decide +kernel))
        (fun _ _ => False.elim) fun e _ he => ⟨fun _ => he, fun hnot => ?_⟩
      exact absurd ⟨user, hmem, rfl, hactive⟩ hnot

theorem limited_eq_throw {n : Int} {l : List α} (h : Moment.isWord n = false) :
    Op.limited (some n) l = throw .overflow := by
  simp only [Moment.isWord, Bool.and_eq_false_iff, decide_eq_false_iff_not, not_le] at h
  exact if_pos h

/-- A limit that the store does not take. -/
theorem summary_overflow {f : SummaryFilter}
    (h : Moment.isWord (limitOr c.settings.defaultLimit f.limit) = false) :
    (summary f).Ends c s (fun _ _ => False) fun e t => e = .overflow ∨ c.Struck e t := by
  refine .unitOfWork (fun _ => .bind (ends_read.2 (.bind (.bind (.query (fun _ => ?_)
    fun _ _ h _ => .inr h))))) fun _ _ h _ => .inr h
  rw [limited_eq_throw h]
  exact ends_throw.2 (.inl rfl)

theorem reviewerReport_grave {limit : Int} (hc : c.Calm s)
    (hknown : s.store.Knows id)
    (h : Moment.isWord (limitOr c.settings.defaultLimit limit) = false) :
    (reviewerReport id limit).Ends c s (fun _ _ => False) fun e _ => e.Grave := by
  refine .unitOfWork (fun _ => .bind (.query (fun _ => ?_) hc.spared)) hc.spared
  cases hu : s.store.user? id with
  | none =>
    obtain ⟨u, hmem, hid⟩ := hknown
    exact absurd hid (user?_eq_none_iff.1 hu u hmem)
  | some user =>
    refine .bind (.query (fun _ => .bind (ends_read.2 (.bind (.bind (.query (fun _ => ?_)
      hc.spared))))) hc.spared)
    rw [limited_eq_throw h]
    exact ends_throw.2 rfl

/-! ## All requests -/

variable {r : Request Argument}

/-- **Whatever is not too much is answered or refused.** -/
theorem performAny_mild (hs : s.store.Sound) (hc : c.Calm s)
    (h : ¬ r.Overtaxes c.settings.defaultLimit s.store) :
    (performAny r).Ends c s (fun _ _ => True) fun e _ => e.Mild := by
  have hmild : ∀ {op : Op Answer}, Op.Mild c op → op.Ends c s (fun _ _ => True) fun e _ => e.Mild :=
    fun h => (h s hc).mono (fun _ _ _ => trivial) fun _ _ h => h
  have hcalm : ∀ {γ : Type} {op : Op γ} {g : γ → Answer},
      op.Ends c s (fun _ t => c.Calm t) (fun e _ => e.Mild) →
      (g <$> op).Ends c s (fun _ _ => True) fun e _ => e.Mild :=
    fun h => ends_map.2 (h.mono (fun _ _ _ => trivial) fun _ _ h => h)
  cases r with
  | createTeam team members =>
    cases team with
    | missing | broken => exact absurd rfl h
    | text name =>
      cases hm : members.mapM MemberEntry.complete? with
      | some ms =>
        rw [performAny_of_complete (complete?_createTeam hm)]
        exact hmild (createTeam_mild.map _)
      | none =>
        rw [performAny_of_incomplete (complete?_createTeam hm)]
        have hbad : ∃ m ∈ members, m.complete? = none := mapM_eq_none.1 hm
        refine (createWith_calm hc hbad).mono (fun _ _ => False.elim) fun e _ he => he.2 ?_
        exact fun hn => h ⟨hn, hbad⟩
  | showTeam a =>
    obtain ⟨name, rfl⟩ := exists_text h
    exact hmild (showTeam_mild.map _)
  | setUserActive a =>
    obtain ⟨id, rfl⟩ := exists_text h
    exact hmild (setUserActive_mild.map _)
  | reviewsOf a =>
    obtain ⟨id, rfl⟩ := exists_text h
    exact hmild (reviewsOf_mild.map _)
  | openPull pull title author =>
    cases author with
    | missing | broken => exact absurd rfl h
    | text author =>
      by_cases hwhole : pull.text? = none ∨ title.text? = none
      · rw [performAny_of_incomplete (complete?_openPull (hwhole.imp_right .inl))]
        refine (openUnnamed_calm hs hc).mono (fun _ _ => False.elim) fun e _ he => he.2 ?_
        exact fun hactive => h ⟨hactive, hwhole⟩
      · obtain ⟨hpull, htitle⟩ := not_or.1 hwhole
        obtain ⟨id, rfl⟩ := exists_text hpull
        obtain ⟨title, rfl⟩ := exists_text htitle
        exact hcalm (openPull_calm hs hc)
  | replaceReviewer pull leaving =>
    obtain ⟨id, rfl⟩ := exists_text h
    cases leaving with
    | text => exact .bind ((replaceReviewer_calm hc).mono (fun _ _ _ => trivial) fun _ _ h => h)
    | missing | broken => exact hmild replaceUnnamed_mild
  | merge a =>
    obtain ⟨id, rfl⟩ := exists_text h
    exact hmild (merge_mild.map _)
  | deactivateTeam a =>
    obtain ⟨team, rfl⟩ := exists_text h
    exact ends_map.2 (deactivateTeam_calm hs hc)
  | overview => exact hmild (overview_mild.map _)
  | summary => exact hmild ((summary_mild (by simpa [Request.Overtaxes] using h)).map _)
  | reviewerReport a limit =>
    cases a with
    | missing | broken => exact absurd rfl h
    | text =>
      refine hcalm (reviewerReport_calm hc fun hknown => ?_)
      simpa [Request.Overtaxes, hknown] using h
  | pullReport a =>
    obtain ⟨id, rfl⟩ := exists_text h
    exact hmild (pullReport_mild.map _)

/-- **Whatever is too much ends as an error of the server.** -/
theorem performAny_overtaxed (hs : s.store.Sound) (hc : c.Calm s)
    (hfilled : ∀ a ∈ r.required, a.2.isBlank = false)
    (h : r.Overtaxes c.settings.defaultLimit s.store) :
    (performAny r).Ends c s (fun _ _ => False) fun e _ => e.Grave := by
  cases r with
  | createTeam team members =>
    have hteam := hfilled _ List.mem_cons_self
    cases team with
    | missing => cases hteam
    | broken ps =>
      refine .unitOfWork (fun calls => ?_) hc.spared
      exact notStored_grave (s := { s with calls }) hc (by decide +kernel)
    | text name =>
      obtain ⟨hn, m, hmem, hnone⟩ := h
      have hm : members.mapM MemberEntry.complete? = none := mapM_eq_none.2 ⟨m, hmem, hnone⟩
      rw [performAny_of_incomplete (complete?_createTeam hm)]
      exact (createWith_calm hc ⟨m, hmem, hnone⟩).mono (fun _ _ => False.elim) fun _ _ he => he.1 hn
  | openPull pull title author =>
    cases author with
    | missing =>
      have hauthor := hfilled ("author_id", .missing) (by simp [Request.required])
      cases hauthor
    | broken ps =>
      rw [performAny_of_incomplete (complete?_openPull (.inr (.inr rfl)))]
      exact absent_grave hc
    | text author =>
      rw [performAny_of_incomplete (complete?_openPull (h.2.imp_right .inl))]
      exact (openUnnamed_calm hs hc).mono (fun _ _ => False.elim) fun e _ he => he.1 h.1
  | reviewerReport a limit =>
    cases a with
    | missing => cases hfilled _ List.mem_cons_self
    | broken ps => exact absent_grave hc
    | text id =>
      exact ends_map.2 ((reviewerReport_grave hc h.1 h.2).mono (fun _ _ => False.elim)
        fun _ _ h => h)
  | summary filter =>
    refine ends_map.2 ((summary_overflow h).mono (fun _ _ => False.elim) fun e t he => ?_)
    rcases he with rfl | hstruck
    · rfl
    · exact absurd hc hstruck.not_calm
  | overview => exact h.elim
  | showTeam a | setUserActive a | merge a | deactivateTeam a | pullReport a | replaceReviewer a =>
    obtain ⟨ps, rfl⟩ := broken_of_text? h (hfilled _ List.mem_cons_self)
    exact absent_grave hc
  | reviewsOf a =>
    obtain ⟨ps, rfl⟩ := broken_of_text? h (hfilled _ List.mem_cons_self)
    refine .unitOfWork (fun calls => .bind ?_) hc.spared
    exact Ends.mono (consult_grave (s := { s with calls }) hc) (fun _ _ => False.elim)
      fun _ _ h => h

end Desk

/-! ## The service -/

theorem Request.objection?_cause {r : Request Argument} {e : Refusal}
    (h : r.objection? = some e) : e.cause = .invalidArgument := by
  obtain ⟨a, -, rfl⟩ := Option.map_eq_some_iff.1 h
  rfl

namespace Service

variable {r : Request Argument}

/-- A request that the service does not let through is the fault of the client. -/
theorem perform_mild (hs : s.store.Sound) (hc : c.Calm s) (ht : hasTime c.settings)
    (h : ¬ (r.objection? = none ∧ r.Overtaxes c.settings.defaultLimit s.store)) :
    (perform r).Ends c s (fun _ _ => True) fun e _ => e.Mild := by
  cases ho : r.objection? with
  | some e =>
    rw [perform_refused ho]
    refine Op.ends_throw.2 (Failure.mild_of_refused ?_)
    rw [Request.objection?_cause ho]
    decide
  | none =>
    refine perform_passes (Request.objection?_eq_none.1 ho) ht (fun _ _ _ h => h) ?_
    exact Desk.performAny_mild hs hc fun hover => h ⟨ho, hover⟩

theorem perform_overtaxed (hs : s.store.Sound) (hc : c.Calm s) (ht : hasTime c.settings)
    (ho : r.objection? = none) (h : r.Overtaxes c.settings.defaultLimit s.store) :
    (perform r).Ends c s (fun _ _ => False) fun e _ => e.Grave := by
  have hfilled := Request.objection?_eq_none.1 ho
  exact perform_passes hfilled ht (fun _ _ _ h => h) (Desk.performAny_overtaxed hs hc hfilled h)

end Service

/-! ## From outside -/

namespace Http

/-- The request from outside asks for something that the service lets through, and it comes
    to a value that the store cannot take. -/
def Incoming.Overtaxes (usual : Int) (s : Store) (r : Incoming) : Prop :=
  ∃ q, r.Asks q ∧ q.objection? = none ∧ q.Overtaxes usual s

end Http

namespace Session

open Op

variable {engine : Settings.Engine} {s : Session} {x : Step} {r : Http.Incoming}

/-- **Which requests end as an error of the server.**  While no call goes wrong, no draw
    fails and there is time, a request from outside is answered with a status below 500,
    but for those that come to a value which the store cannot take, and every one of those
    is answered with the status 500. -/
theorem Reachable.server_errors (h : s.Reachable engine) (hx : x.action = .web r)
    (hcalm : s.Untroubled x) : ∃ a, (s.take x).1 = .ok (.response a) ∧
      (r.Overtaxes x.site.settings.engine.defaultLimit s.store → a.status = 500) ∧
      (¬ r.Overtaxes x.site.settings.engine.defaultLimit s.store → a.status < 500) := by
  obtain ⟨htime, hcalm⟩ := hcalm
  cases hcall : r.call? x.site.settings.web.corsOrigins with
  | none =>
    obtain ⟨-, a, ha, hstatus⟩ := take_idle hx hcall
    refine ⟨a, ha, fun hover => ?_, fun _ => hstatus hcalm.1⟩
    obtain ⟨q, hasks, -⟩ := hover
    rw [hasks.call?] at hcall
    cases hcall
  | some call =>
    obtain ⟨q, hasks, rfl⟩ := Http.Incoming.asks_of_call? hcall
    by_cases hover : r.Overtaxes x.site.settings.engine.defaultLimit s.store
    · obtain ⟨q', hasks', ho, htoo⟩ := id hover
      obtain rfl := hasks'.unique hasks
      have hends := Service.perform_overtaxed (s := s.scene x.cue) h.sound hcalm htime ho htoo
      obtain ⟨a, ha, ⟨_, hnot, -⟩ | ⟨e, he, hlike⟩⟩ := take_web_of_ends (P := fun _ _ => False)
        (Q := fun e _ => e.Grave) hx hcall hends
      · exact hnot.elim
      · exact ⟨a, ha, fun _ => hlike.status.trans he, fun hnot => absurd hover hnot⟩
    · have hfits : ¬ (q.objection? = none ∧
          q.Overtaxes x.site.settings.engine.defaultLimit s.store) :=
        fun ⟨ho, htoo⟩ => hover ⟨q, hasks, ho, htoo⟩
      have hends := Service.perform_mild (s := s.scene x.cue) h.sound hcalm htime hfits
      obtain ⟨a, ha, ⟨b, -, hlike⟩ | ⟨e, he, hlike⟩⟩ := take_web_of_ends (P := fun _ _ => True)
        (Q := fun e _ => e.Mild) hx hcall hends
      · refine ⟨a, ha, fun hnot => absurd hnot hover, fun _ => ?_⟩
        have hok := Http.successOf_cases q
        rw [hlike.status]
        change Http.successOf q < 500
        omega
      · refine ⟨a, ha, fun hnot => absurd hnot hover, fun _ => ?_⟩
        rw [hlike.status]
        exact he

/-- A request from outside for a summary with a limit. -/
def limiting (limit : String) : Http.Incoming where
  method := "GET"
  target := { path := "/stats/summary", query := "limit=" ++ limit }

theorem server_errors_opening :
    let x : Step := { action := .web (limiting "3") }
    ∃ a, ((blank.along opening).take x).1 = .ok (.response a) ∧ a.status < 500 := by
  intro x
  have hasks : (limiting "3").Asks (.summary { limit := 3 }) :=
    .summary ⟨rfl, .inl rfl⟩ (.inr ⟨by decide +kernel, rfl⟩) (.inr ⟨by decide +kernel, rfl⟩)
      (.inr ⟨by decide +kernel, rfl⟩) (.inl ⟨.text "3", by rfl, by rfl⟩)
  have hfits : ¬ (limiting "3").Overtaxes 10 (blank.along opening).store := by
    rintro ⟨q, hq, -, htoo⟩
    obtain rfl := hq.unique hasks
    exact absurd htoo (by decide : ¬ Moment.isWord (limitOr 10 3) = false)
  have hcalm : (blank.along opening).Untroubled x :=
    untroubled_of_draws rfl (by decide +kernel) (by decide +kernel)
  obtain ⟨a, ha, -, hstatus⟩ := reachable_opening.server_errors (x := x) rfl hcalm
  exact ⟨a, ha, hstatus hfits⟩

/-- **A request that ends as an error of the server.**  Nothing is in the store, nothing
    goes wrong, and a summary is asked for with a limit of more than 64 bits. -/
theorem server_errors_limit :
    let x : Step := { action := .web (limiting "9223372036854775808") }
    statusOf? (blank.take x).1 = some 500 := by
  decide +kernel

end Session

end ReviewRota
