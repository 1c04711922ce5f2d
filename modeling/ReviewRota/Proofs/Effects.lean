/-
  ReviewRota — what requests do to the store.

  A request that fails leaves the store as it was, and so does one that lacks a text.
  One that succeeds has done nothing, or what its kind of request does.

  * `foundTeam_ends` to `transition_ends`: the parts of operations that write;
  * `createTeam_ends` to `moveTo_ends`: the operations that write, as wholes;
  * `Desk.Deed` is what a successful request has done if it did anything, and
    `Deed.effect`: it has made some edits, or it has opened a pull request and answers
    with its view;
  * `performAny_ends` says so of every request, and `moveAny_ends` of a transition
    asked for.
-/
import ReviewRota.Desk
import ReviewRota.Proofs.Cascade

namespace ReviewRota

variable {c : Conditions} {s : Scene} {id name team author title leaving : String}

namespace Desk

open Op Store

/-- An operation that looks something up, changes the store and then only reports. -/
theorem commit_ends {α β γ : Type} {call : StoreCall} {f : Store → α} {g : α → Op β}
    {k : β → Op γ} {P : β → Store → Prop} {done : γ → Scene → Prop}
    (hg : ∀ calls, (g (f s.store)).Ends c { s with calls } (fun b t => P b t.store) fun _ _ => True)
    (hk : ∀ b t, P b t.store → (k b).Ends c t done fun _ _ => False) :
    (Op.unitOfWork (query call f >>= g) >>= k).Ends c s done fun _ t => t.store = s.store := by
  refine .commit (P := P) (fun _ => ?_) fun b t h => ?_
  · exact .bind (.query (fun _ => hg _) fun _ _ _ _ => trivial)
  · exact (hk b t h).mono (fun _ _ h => h) fun _ _ => False.elim

/-! ## Teams and users -/

theorem foundTeam_ends : (foundTeam name).Ends c s
    (fun _ t => s.store.team? name = none ∧
      t.store = { s.store with teams := s.store.teams ++ [⟨name, c.now, c.now⟩] })
    fun _ _ => True := by
  refine ends_unlessTaken.2 (.attempt (fun _ store h => ?_) (fun _ e _ => ?_) fun e t _ _ => ?_)
  · unfold Store.addTeam at h
    cases hn : s.store.team? name with
    | none => rw [hn] at h; cases h; exact ⟨rfl, rfl⟩
    | some _ => rw [hn] at h; cases h
  all_goals split <;> trivial

/-- The members are put into a team one after another. -/
theorem putAll_ends {members : List Member} : (members.forM (Op.putMember team)).Ends c s
    (fun _ t => t.store = members.foldl (fun s m => s.putMember team m c.now) s.store)
    fun _ _ => True :=
  Ends.forM (I := fun rest t => rest.foldl (fun s m => s.putMember team m c.now) t.store =
      members.foldl (fun s m => s.putMember team m c.now) s.store)
    (fun _ _ _ ht => .write (fun _ => ht) fun _ _ _ _ => trivial) rfl

theorem createTeam_ends {members : List Member} : (createTeam name members).Ends c s
    (fun view t => s.store.team? name = none ∧ t.store = s.store.founded name members c.now ∧
      view.members = (t.store.members name).map User.member)
    fun _ t => t.store = s.store := by
  refine .commit
    (P := fun rows t => s.store.team? name = none ∧ t = s.store.founded name members c.now ∧
      rows = t.members name)
    (fun _ => .bind (foundTeam_ends.mono (fun _ t ht => .bind ?_) fun _ _ h => h))
    fun rows t h => .bind (.report fun _ => ⟨h.1, h.2.1, congrArg (List.map User.member) h.2.2⟩)
  obtain ⟨hn, ht⟩ := ht
  refine putAll_ends.mono (fun _ u hu => ?_) fun _ _ h => h
  exact .query (fun _ => ⟨hn, by rw [hu, ht]; rfl, rfl⟩) fun _ _ _ _ => trivial

theorem setUserActive_ends {active : Bool} : (setUserActive id active).Ends c s
    (fun _ t => (s.store.user? id).isSome ∧ t.store = s.store.setActive id active c.now)
    fun _ t => t.store = s.store := by
  refine commit_ends (P := fun _ t => (s.store.user? id).isSome ∧
    t = s.store.setActive id active c.now) (fun _ => ?_)
    fun _ _ h => .bind (.report fun _ => h)
  cases s.store.user? id with
  | none => trivial
  | some user => exact .bind (ends_read.2 (.bind (ends_modify.2 ⟨rfl, rfl⟩)))

/-! ## Reviewers -/

theorem addPull_ends : (Op.addPull id title author).Ends c s
    (fun pull t => s.store.pull? id = none ∧ pull = ⟨id, title, author, .opened, c.now, none⟩ ∧
      t.store = s.store.opened pull [] c.now)
    fun _ _ => True := by
  refine .bind (.reach (fun _ => .bind (ends_read.2 (.bind (ends_get.2 (.bind (.ofExcept ?_ ?_))))))
    fun _ _ _ _ => trivial)
  · intro r h
    unfold Store.addPull at h
    cases hn : s.store.pull? id with
    | none =>
      rw [hn] at h
      cases h
      exact .bind (ends_modify.2 ⟨rfl, rfl, by simp [Store.opened]⟩)
    | some _ => rw [hn] at h; cases h
  · exact fun _ _ => trivial

theorem assignAll_ends {pull : PullRequest} {reviewers : List String} {before : Store}
    (h : s.store = before.opened pull [] c.now) (hid : pull.id = id) :
    (reviewers.forM (Op.assign id)).Ends c s
      (fun _ t => t.store = before.opened pull reviewers c.now) fun _ _ => True := by
  subst hid
  refine (Ends.forM (I := fun rest t => ∃ done, reviewers = done ++ rest ∧
    t.store = before.opened pull done c.now) (fun r rest t ht => ?_) ⟨[], rfl, h⟩).mono ?_
    fun _ _ h => h
  · obtain ⟨done, rfl, ht⟩ := ht
    refine .attempt (fun _ store hs => ⟨done ++ [r], by simp, ?_⟩) (fun _ _ _ => trivial)
      fun _ _ _ _ => trivial
    rw [assign_eq] at hs
    split at hs
    · cases hs
    · cases hs
      rw [ht]
      simp [Store.opened, Store.seat]
  · rintro _ t ⟨done, hd, ht⟩
    rw [hd, List.append_nil]; exact ht

theorem openPull_ends : (openPull id title author).Ends c s
    (fun view t => view.id = id ∧ view.title = title ∧ view.author = author ∧
      Opening c.settings.maxReviewers c.now s.store view t.store)
    fun _ t => t.store = s.store := by
  refine .commit (P := fun r t => r.2.id = id ∧ r.2.title = title ∧ r.2.author = author ∧
      Opening c.settings.maxReviewers c.now s.store r.2 t)
    (fun _ => .bind (.query (fun _ => ?_) fun _ _ _ _ => trivial))
    fun r _ h => .bind (.report fun _ => ends_pure.2 h)
  cases hu : s.store.user? author with
  | none => trivial
  | some user =>
  obtain ⟨hu, hid⟩ := mem_of_user? hu
  dsimp only
  split
  next => trivial
  next ha =>
  refine .bind (ends_unlessTaken.2 (addPull_ends.mono (fun pull t ht => ?_) fun e t _ => ?_))
  · obtain ⟨hn, rfl, ht⟩ := ht
    refine .bind (.query (fun _ => .bind (ends_read.2 (.bind (.drawing ?_))))
      fun _ _ _ _ => trivial)
    refine Drawing.sample_spec.mono (fun reviewers g hr => .bind ?_) fun _ _ _ => trivial
    obtain ⟨hlen, hsub, -⟩ := hr
    refine Ends.mono (assignAll_ends ht rfl) (fun _ u hu' => ends_pure.2 ?_) fun _ _ h => h
    rw [ht] at hsub hlen
    exact ⟨rfl, rfl, rfl, hn, rfl, ⟨user, hu, hid, by simpa using ha, hsub, hlen⟩, hu'⟩
  · split <;> trivial

theorem replaceReviewer_ends : (replaceReviewer id leaving).Ends c s
    (fun r t => ∃ p ∈ s.store.pulls, p.id = id ∧ p.status = .opened ∧
      leaving ∈ s.store.reviewers p.id ∧ s.store.MayJoin p r.2 ∧
        t.store = s.store.handOver p.id leaving (some r.2) c.now ∧
        r.1 = p.view ((s.store.reviewers p.id).filter (· ≠ leaving) ++ [r.2]))
    fun _ t => t.store = s.store := by
  refine commit_ends (P := fun (r : PullView × String) t => ∃ p ∈ s.store.pulls, p.id = id ∧
      p.status = .opened ∧ leaving ∈ s.store.reviewers p.id ∧ s.store.MayJoin p r.2 ∧
        t = s.store.handOver p.id leaving (some r.2) c.now ∧
        r.1 = p.view ((s.store.reviewers p.id).filter (· ≠ leaving) ++ [r.2]))
    (fun _ => ?_) fun _ _ h => .bind (.report fun _ => h)
  cases hp : s.store.pull? id with
  | none => trivial
  | some pull =>
  obtain ⟨hmem, rfl⟩ := mem_of_pull? hp
  dsimp only
  split
  next => trivial
  next ho =>
  refine .bind (.query (fun _ => ?_) fun _ _ _ _ => trivial)
  dsimp only
  split
  next => exact .bind (.report fun _ => trivial)
  next hl =>
  refine .bind (.query (fun _ => ?_) fun _ _ _ _ => trivial)
  cases s.store.user? leaving with
  | none => trivial
  | some user =>
  refine .bind (.query (fun _ => .bind (.drawing ?_)) fun _ _ _ _ => trivial)
  refine Drawing.choice_spec.mono (fun joining g hj => ?_) fun _ _ _ => trivial
  cases joining with
  | none => trivial
  | some j =>
    refine .bind (.bind (.query (fun _ => .bind (ends_modify.2 (ends_pure.2 ?_)))
      fun _ _ _ _ => trivial))
    refine .bind (.attempt (fun _ store hs => ?_) (fun _ _ _ => trivial) fun _ _ _ _ => trivial)
    rw [assign_eq] at hs
    split at hs
    · cases hs
    · cases hs
      have hjoin : s.store.MayJoin pull j := by
        obtain ⟨u, hu, ha, rfl⟩ := mem_candidates.1 hj.1
        obtain ⟨ha, -, -, hx⟩ := Pool.admits_iff.1 ha
        exact ⟨fun h => hx (h ▸ List.mem_cons_self), fun h => hx (List.mem_cons_of_mem _ h), u, hu,
          rfl, ha⟩
      refine .bind (.write (fun _ => ends_pure.2 ?_) fun _ _ _ _ => trivial)
      exact ⟨pull, hmem, rfl, by simpa using ho, by simpa using hl, hjoin, rfl, rfl⟩

/-! ## Merging -/

/-- Only an open pull request moves, and it moves to merged. -/
theorem transition_ends {pull : PullRequest} {target : Status} :
    (transition pull target).Ends c s
      (fun moved t => pull.status = .opened ∧ target = .merged ∧
        moved = pull.withStatus .merged c.now ∧ t.store = s.store.setStatus pull.id .merged c.now)
      fun _ _ => True := by
  unfold transition
  dsimp only
  split
  next => trivial
  next ha =>
    have hm : pull.status = .opened ∧ target = .merged := by
      cases hp : pull.status <;> cases target <;> simp_all [Status.allows]
    obtain ⟨ho, rfl⟩ := hm
    exact .bind (ends_read.2 (.bind (ends_modify.2 (.bind (.report fun _ =>
      ends_pure.2 ⟨ho, rfl, rfl, rfl⟩)))))

/-- An open pull request moves, and its move is reported at once. -/
theorem ends_transition {pull : PullRequest} {done : PullRequest → Scene → Prop}
    {lost : Failure → Scene → Prop} (ho : pull.status = .opened) :
    (transition pull .merged).Ends c s done lost ↔ done (pull.withStatus .merged c.now)
      { s with
        store := s.store.setStatus pull.id .merged c.now
        log := s.log ++ [⟨c.context, .pullTransition pull.id .opened .merged⟩] } := by
  unfold transition
  rw [ho]
  exact Iff.rfl

/-- An open pull request has been merged. -/
def Merged (now : Moment) (s : Store) (id : String) (t : Store) : Prop :=
  ∃ p ∈ s.pulls, p.id = id ∧ p.status = .opened ∧ t = s.setStatus p.id .merged now

theorem merge_ends : (merge id).Ends c s
    (fun view t => (t.store = s.store ∨ Merged c.now s.store id t.store) ∧ view.id = id ∧
      t.store.Shows view)
    fun _ t => t.store = s.store := by
  refine commit_ends (P := fun (r : Bool × PullView) t => (t = s.store ∨ Merged c.now s.store id t) ∧
    r.2.id = id ∧ t.Shows r.2) (fun _ => ?_) fun _ _ h => .bind (.report fun _ => h)
  cases hp : s.store.pull? id with
  | none => trivial
  | some pull =>
    obtain ⟨hmem, rfl⟩ := mem_of_pull? hp
    dsimp only
    split
    next =>
      refine .bind (ends_pure.2 (.bind (.query (fun _ => ?_) fun _ _ _ _ => trivial)))
      exact ⟨.inl rfl, rfl, hp, .refl _⟩
    next =>
      refine .bind (transition_ends.mono (fun moved t ht => ?_) fun _ _ h => h)
      obtain ⟨ho, -, rfl, ht⟩ := ht
      have hshown : t.store.pull? pull.id = some (pull.withStatus .merged c.now) := by
        rw [ht, pull?_setStatus_self, hp]
        rfl
      refine .bind (.query (fun _ => ?_) fun _ _ _ _ => trivial)
      exact ⟨.inr ⟨pull, hmem, rfl, ho, ht⟩, rfl, hshown, .refl _⟩

theorem moveTo_ends {target : Status} : (moveTo id target).Ends c s
    (fun _ t => Merged c.now s.store id t.store) fun _ t => t.store = s.store := by
  refine .unitOfWork_restores fun _ => .bind (.query (fun _ => ?_) fun _ _ _ _ => trivial)
  cases hp : s.store.pull? id with
  | none => trivial
  | some pull =>
    obtain ⟨hmem, rfl⟩ := mem_of_pull? hp
    refine .bind (transition_ends.mono (fun moved t ht => ?_) fun _ _ h => h)
    obtain ⟨ho, -, -, ht⟩ := ht
    exact ends_pure.2 ⟨pull, hmem, rfl, ho, ht⟩

/-! ## Operations that read -/

theorem showTeam_reads : (showTeam name).Reads := by
  refine .unitOfWork (.bind (.query _ _) fun team => ?_)
  cases team with
  | none => exact .throw _
  | some team => exact .bind (.query _ _) fun _ => .pure _

theorem reviewsOf_reads : (reviewsOf id).Reads :=
  .unitOfWork (.bind (.bind (.query _ _) fun _ => .limited _ _) fun _ => .pure _)

theorem overview_reads : overview.Reads := by
  have hcounts : ∀ w, (countByReviewer w none).Reads := fun _ =>
    .bind (.query _ _) fun _ => .limited _ _
  exact .bind (.unitOfWork (.bind (hcounts _) fun _ => .bind (.query _ _) fun _ =>
    .bind (.query _ _) fun _ => .bind (.query _ _) fun _ => .pure _)) fun _ => .pure _

theorem summary_reads {f : SummaryFilter} : (summary f).Reads :=
  .unitOfWork (.bind .read fun _ => .bind (.bind (.query _ _) fun _ => .limited _ _) fun _ =>
    .bind (.query _ _) fun _ => .bind (.query _ _) fun _ => .pure _)

theorem reviewerReport_reads {limit : Int} : (reviewerReport id limit).Reads := by
  refine .unitOfWork (.bind (.query _ _) fun user => ?_)
  cases user with
  | none => exact .throw _
  | some user =>
    exact .bind (.query _ _) fun _ => .bind .read fun _ =>
      .bind (.bind (.query _ _) fun _ => .limited _ _) fun _ => .pure _

theorem pullReport_reads : (pullReport id).Reads := by
  refine .unitOfWork (.bind (.query _ _) fun pull => ?_)
  cases pull with
  | none => exact .throw _
  | some pull => exact .bind (.query _ _) fun _ => .bind (.query _ _) fun _ => .pure _

/-! ## Requests that lack a text -/

theorem consult_reads {call : StoreCall} {a : Argument} : (consult call a).Reads := by
  refine .bind (.reach _) fun _ => ?_
  cases a.obstacle? with
  | none => exact .pure _
  | some f => exact .throw f

theorem absent_reads {α : Type} {call : StoreCall} {cause : Cause} {a : Argument} :
    (absent call cause a : Op α).Reads :=
  .unitOfWork (.bind consult_reads fun _ => .throw _)

theorem notStored_reads {α : Type} {call : StoreCall} {table : String} {l : List Argument} :
    (notStored call table l : Op α).Reads :=
  .bind (.reach _) fun _ => .throw _

theorem openUnnamed_reads {pull title : Argument} : (openUnnamed pull title author).Reads := by
  refine .unitOfWork (.bind (.query _ _) fun user => ?_)
  cases user with
  | none => exact .throw _
  | some user =>
    dsimp only
    split
    · exact .bind (.throw _) fun _ => .unlessTaken (.report _) notStored_reads
    · exact .unlessTaken (.report _) notStored_reads

theorem replaceUnnamed_reads {leaving : Argument} : (replaceUnnamed id leaving).Reads := by
  have hrest : ((do
      let _ ← listReviewers id
      report (.notAssigned id leaving.shown)
      refuse .notAssigned) : Op Answer).Reads :=
    .bind (.query _ _) fun _ => .bind (.report _) fun _ => .throw _
  refine .unitOfWork (.bind (.query _ _) fun pull => ?_)
  cases pull with
  | none => exact .throw _
  | some pull =>
    dsimp only
    split
    · exact .bind (.throw _) fun _ => hrest
    · exact hrest

theorem mapM_isSome {α β : Type} {f : α → Option β} {l : List α} :
    (l.mapM f).isSome ↔ ∀ a ∈ l, (f a).isSome := by
  induction l with
  | nil => simp
  | cons a l ih =>
    rw [List.mapM_cons, List.forall_mem_cons, ← ih]
    cases f a <;> cases l.mapM f <;> simp

theorem mapM_eq_none {α β : Type} {f : α → Option β} {l : List α} :
    l.mapM f = none ↔ ∃ a ∈ l, f a = none := by
  rw [← Option.not_isSome_iff_eq_none, mapM_isSome]
  simp

theorem putEntry_ends {m : MemberEntry Argument} : (putEntry team m).Ends c s
    (fun _ _ => m.complete?.isSome) fun _ _ => True := by
  unfold putEntry
  cases m.complete? with
  | some m => exact .write (fun _ => rfl) fun _ _ _ _ => trivial
  | none => exact .bind (.reach (fun _ => trivial) fun _ _ _ _ => trivial)

/-- The loop over entries ends well only if all of them are complete. -/
theorem putEntries_ends {members : List (MemberEntry Argument)} :
    (members.forM (putEntry team)).Ends c s (fun _ _ => ∀ m ∈ members, m.complete?.isSome)
      fun _ _ => True := by
  refine (Ends.forM (I := fun (rest : List (MemberEntry Argument)) _ =>
      (∀ m ∈ rest, m.complete?.isSome) → ∀ m ∈ members, m.complete?.isSome)
    (fun m rest t ht => putEntry_ends.mono (fun _ _ hm hrest => ?_) fun _ _ h => h) id).mono
    (fun _ _ h => h nofun) fun _ _ h => h
  exact ht (List.forall_mem_cons.2 ⟨hm, hrest⟩)

/-- A team with members of which one is incomplete is not set up. -/
theorem createWith_ends {members : List (MemberEntry Argument)}
    (h : members.mapM MemberEntry.complete? = none) :
    (createWith name members).Ends c s (fun _ _ => False) fun _ t => t.store = s.store := by
  refine .unitOfWork_restores fun _ => ?_
  refine .bind (foundTeam_ends.mono (fun _ t _ => .bind ?_) fun _ _ h => h)
  refine putEntries_ends.mono (fun _ u hall => ?_) fun _ _ h => h
  have hsome := mapM_isSome.2 hall
  rw [h] at hsome
  cases hsome

/-- A request that lacks a text changes nothing. -/
theorem performIncomplete_reads {r : Request Argument} (h : r.complete? = none) :
    (performIncomplete r).Reads := by
  have habsent : ∀ {call cause} {a : Argument}, (absent call cause a : Op Answer).Reads :=
    absent_reads
  cases r with
  | createTeam team members =>
    cases team with
    | text =>
      have hm : members.mapM MemberEntry.complete? = none :=
        Option.eq_none_iff_forall_ne_some.2 fun ms hm => by
          simp [Request.complete?, Argument.text?, hm] at h
      exact fun _ _ => (createWith_ends hm).mono (fun _ _ => False.elim) fun _ _ h => h
    | missing | broken => exact .unitOfWork (.unlessTaken (.pure _) notStored_reads)
  | reviewsOf => exact .unitOfWork (.bind consult_reads fun _ => .pure _)
  | openPull _ _ author =>
    cases author with
    | text => exact openUnnamed_reads
    | missing | broken => exact habsent
  | replaceReviewer pull =>
    cases pull with
    | text => exact replaceUnnamed_reads
    | missing | broken => exact habsent
  | overview => exact overview_reads.map _
  | summary => exact summary_reads.map _
  | showTeam | setUserActive | merge | deactivateTeam | reviewerReport | pullReport =>
    exact habsent

/-! ## All requests -/

/-- What a request that is answered has done to the store, if it did anything. -/
inductive Deed (most : Int) (now : Moment) (s : Store) : Request String → Answer → Store → Prop
  | founded {name members a} : s.team? name = none →
      Deed most now s (.createTeam name members) a (s.founded name members now)
  | flagged {user active a} :
      Deed most now s (.setUserActive user active) a (s.setActive user active now)
  | opened {view t} : Opening most now s view t →
      Deed most now s (.openPull view.id view.title view.author) (.pull view) t
  | replaced {p : PullRequest} {leaving joining a} : p ∈ s.pulls → p.status = .opened →
      leaving ∈ s.reviewers p.id → s.MayJoin p joining →
      Deed most now s (.replaceReviewer p.id leaving) a (s.handOver p.id leaving (some joining) now)
  | merged {id a t} : Merged now s id t → Deed most now s (.merge id) a t
  | deactivated {team a t} :
      Cascading team (s.activeMembers team) now (s.switchOff team now) [] t →
      Deed most now s (.deactivateTeam team) a t

section
variable {s t : Store} {now : Moment} {most : Int}

theorem Merged.edits (h : Merged now s id t) : Edits now s t := by
  obtain ⟨p, hp, -, ho, rfl⟩ := h
  exact .single (.merge hp ho)

theorem Cascading.edits (hs : s.Sound)
    (h : Cascading team (s.activeMembers team) now (s.switchOff team now) [] t) :
    Edits now s t :=
  .head .switchOff (h.run.edits hs.gone_switchOff)

/-- **What a request does** are edits, or it opens a pull request. -/
theorem Deed.effect {r : Request String} {a : Answer} (h : Deed most now s r a t) (hs : s.Sound) :
    Edits now s t ∨ ∃ view, a = .pull view ∧ r = .openPull view.id view.title view.author ∧
      Opening most now s view t := by
  cases h with
  | founded hn => exact .inl (founded_edits hn)
  | flagged => exact .inl (.single .setActive)
  | opened ho => exact .inr ⟨_, rfl, rfl, ho⟩
  | @replaced p leaving joining _ hp ho hl hj =>
    have hjoin : ∀ j ∈ some joining, s.MayJoin p j := fun j h => Option.some.inj h ▸ hj
    exact .inl (.single (.handOver hp ho hl hjoin))
  | merged hm => exact .inl hm.edits
  | deactivated hc => exact .inl (hc.edits hs)

end

theorem perform_ends {r : Request String} (hs : s.store.Sound) : (perform r).Ends c s
    (fun a t => t.store = s.store ∨ Deed c.settings.maxReviewers c.now s.store r a t.store)
    fun _ t => t.store = s.store := by
  have hidle : ∀ {α : Type} {op : Op α} {g : α → Answer}, op.Reads → (g <$> op).Ends c s
      (fun a t => t.store = s.store ∨ Deed c.settings.maxReviewers c.now s.store r a t.store)
      fun _ t => t.store = s.store :=
    fun h => ends_map.2 ((h c s).mono (fun _ _ => .inl) fun _ _ h => h)
  cases r with
  | createTeam =>
    refine ends_map.2 (createTeam_ends.mono (fun _ t h => .inr ?_) fun _ _ h => h)
    rw [h.2.1]
    exact .founded h.1
  | setUserActive =>
    refine ends_map.2 (setUserActive_ends.mono (fun _ t h => .inr ?_) fun _ _ h => h)
    rw [h.2]
    exact .flagged
  | merge => exact ends_map.2 (merge_ends.mono (fun _ _ h => h.1.imp_right .merged) fun _ _ h => h)
  | deactivateTeam =>
    refine ends_map.2 ((deactivateTeam_ends hs).mono (fun _ t h => .inr ?_) fun _ _ h => h.1)
    exact .deactivated h.2.2.1
  | replaceReviewer =>
    refine .bind (replaceReviewer_ends.mono (fun _ t h => ends_pure.2 (.inr ?_)) fun _ _ h => h)
    obtain ⟨p, hp, rfl, ho, hl, hj, ht, -⟩ := h
    rw [ht]
    exact .replaced hp ho hl hj
  | openPull =>
    refine ends_map.2 (openPull_ends.mono (fun view t h => .inr ?_) fun _ _ h => h)
    obtain ⟨rfl, rfl, rfl, ho⟩ := h
    exact .opened ho
  | showTeam => exact hidle showTeam_reads
  | reviewsOf => exact hidle reviewsOf_reads
  | overview => exact hidle overview_reads
  | summary => exact hidle summary_reads
  | reviewerReport => exact hidle reviewerReport_reads
  | pullReport => exact hidle pullReport_reads

theorem text?_eq_some {a : Argument} {text : String} : a.text? = some text ↔ a = .text text := by
  cases a <;> simp [Argument.text?]

theorem complete?_eq_openPull {r : Request Argument}
    (h : r.complete? = some (.openPull id title author)) :
    r = .openPull (.text id) (.text title) (.text author) := by
  cases r <;> simp [Request.complete?, Option.bind_eq_some_iff, text?_eq_some] at h
  obtain ⟨rfl, rfl, rfl⟩ := h
  rfl

theorem complete?_eq_merge {r : Request Argument} (h : r.complete? = some (.merge id)) :
    r = .merge (.text id) := by
  cases r <;> simp [Request.complete?, Option.bind_eq_some_iff, text?_eq_some] at h
  rw [h]

theorem performAny_of_complete {r : Request Argument} {r' : Request String}
    (h : r.complete? = some r') : performAny r = perform r' := by
  rw [performAny, h]

theorem performAny_of_incomplete {r : Request Argument} (h : r.complete? = none) :
    performAny r = performIncomplete r := by
  rw [performAny, h]

theorem complete?_createTeam {members : List (MemberEntry Argument)} {ms : Option (List Member)}
    (h : members.mapM MemberEntry.complete? = ms) :
    (Request.createTeam (.text name) members).complete? = ms.map (.createTeam name) := by
  simp only [Request.complete?, Argument.text?, h]
  cases ms <;> rfl

theorem complete?_openPull {pull title a : Argument}
    (h : pull.text? = none ∨ title.text? = none ∨ a.text? = none) :
    (Request.openPull pull title a).complete? = none := by
  simp only [Request.complete?]
  rcases h with h | h | h
  · rw [h]
    rfl
  · rw [h]
    cases pull.text? <;> rfl
  · rw [h]
    cases pull.text? <;> cases title.text? <;> rfl

theorem exists_text {a : Argument} (h : ¬ a.text? = none) : ∃ text, a = .text text := by
  cases a with
  | text t => exact ⟨t, rfl⟩
  | missing | broken => exact absurd rfl h

/-- **What a request does to the store.**  One that fails does nothing, and nor does one
    that lacks a text. -/
theorem performAny_ends {r : Request Argument} (hs : s.store.Sound) : (performAny r).Ends c s
    (fun a t => t.store = s.store ∨ ∃ r', r.complete? = some r' ∧
      Deed c.settings.maxReviewers c.now s.store r' a t.store)
    fun _ t => t.store = s.store := by
  unfold performAny
  cases h : r.complete? with
  | some r' =>
    refine (perform_ends hs).mono (fun a t ht => ?_) fun _ _ h => h
    exact ht.imp_right fun ht => ⟨r', rfl, ht⟩
  | none => exact (performIncomplete_reads h c s).mono (fun _ _ => .inl) fun _ _ h => h

/-- A transition that is asked for merges the pull request, or it fails. -/
theorem moveAny_ends {pull : Argument} {target : Status} : (moveAny pull target).Ends c s
    (fun _ t => t.store = s.store ∨ ∃ id, pull = .text id ∧ Merged c.now s.store id t.store)
    fun _ t => t.store = s.store := by
  cases pull with
  | text => exact moveTo_ends.mono (fun _ _ h => .inr ⟨_, rfl, h⟩) fun _ _ h => h
  | missing | broken =>
    refine Ends.mono (Reads.unitOfWork (.bind consult_reads fun _ => .throw _) c s) ?_
      fun _ _ h => h
    exact fun _ _ => .inl

end Desk

end ReviewRota
