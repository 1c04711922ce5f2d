/-
  ReviewRota — changes that the log reports.

  Every operation that changes the store reports the change.  Whoever reads the log takes
  such an entry for a change that has been made.  It has been: the entry is written after
  the unit of work that makes the change.  There is one exception.  A merge reports the
  transition inside its unit of work and reads the reviewers after that; if this read goes
  wrong, the merge is undone and the entry stays.

  * `Log.Event.changes`: the names of the events that report a change, and
    `Log.Event.Stands`: the change that an event reports is there;
  * `Op.Logs`: an operation that adds entries of one kind to the log, with a rule for each
    primitive and for each way in which operations are put together;
  * `Ends.announces`: a quiet unit of work, which is reported when it is done;
  * `createTeam_truthful` to `merge_truthful`: the operations that change the store, and
    `performAny_truthful`: all requests;
  * `Session.Reachable.changes_reported`: what an entry of the log says of a step, and
    `Session.changes_reported_undone`: the entry that stays.
-/
import ReviewRota.Proofs.Faults

namespace ReviewRota

variable {α β : Type} {c : Conditions} {s t u : Scene}

/-! ## Changes -/

namespace Log.Event

variable {e : Event}

/-- The names of the events that report a change of the store. -/
def changes : List String :=
  ["team_created", "user_active_updated", "pr_created", "reviewer_reassigned", "pr_transition",
    "pr_merged", "team_deactivated"]

/-- The event reports no change. -/
def Quiet (e : Event) : Prop := e.reportsChange = false

theorem reportsChange_iff : e.reportsChange = true ↔ e.level = .info ∧ e.name ∈ changes := by
  cases e <;> simp [reportsChange, level, name, changes]

/-- What the event reports has come about between the first store and the second. -/
def Stands (now : Moment) (s t : Store) : Event → Prop
  | teamCreated team members =>
    s.team? team = none ∧ (t.team? team).isSome ∧ (t.members team).length = members
  | userActiveUpdated user active => ∃ u ∈ t.users, u.id = user ∧ u.active = active
  | pullCreated pull author reviewers _ =>
    s.pull? pull = none ∧
      (∃ p ∈ t.pulls, p.id = pull ∧ p.author = author ∧ p.status = .opened) ∧
      (t.reviewers pull).Perm reviewers
  | reviewerReassigned pull leaving joining =>
    (leaving ∈ s.reviewers pull ∧ leaving ∉ t.reviewers pull) ∧
      (joining ∉ s.reviewers pull ∧ joining ∈ t.reviewers pull) ∧
      t.history = s.history ++ [⟨pull, leaving, some joining, now⟩]
  | pullTransition pull source target =>
    (∃ p ∈ s.pulls, p.id = pull ∧ p.status = source) ∧
      ∃ p ∈ t.pulls, p.id = pull ∧ p.status = target
  | pullMerged pull already mergedAt =>
    (∃ p ∈ s.pulls, p.id = pull ∧ (already = true ↔ p.status = .merged)) ∧
      ∃ p ∈ t.pulls, p.id = pull ∧ p.status = .merged ∧ p.mergedAt = mergedAt
  | teamDeactivated team _ deactivated reassigned removed =>
    (s.activeMembers team).length = deactivated ∧
      (∀ u ∈ t.users, u.team = team → u.active = false) ∧
      ∃ entries, t.history = s.history ++ entries ∧
        entries.countP (·.joining.isSome) = reassigned ∧
        entries.countP (·.joining.isNone) = removed
  | _ => True

end Log.Event

open Log.Event (Quiet)

/-! ## Entries that are added -/

/-- The entries that the second log has and the first has not are of events of one kind. -/
def Scene.Added (R : Log.Event → Prop) (s t : Scene) : Prop :=
  ∀ entry ∈ t.log, entry ∈ s.log ∨ R entry.event

/-- Every change that has been reported from the first scene to the second is there. -/
def Scene.Truthful (now : Moment) (s t : Scene) : Prop :=
  s.Added (fun e => e.Quiet ∨ e.Stands now s.store t.store) t

namespace Scene.Added

variable {R Q : Log.Event → Prop}

theorem of_log (h : t.log = s.log) : s.Added R t := by
  intro entry he
  rw [h] at he
  exact .inl he

theorem snoc {entry : Log.Entry} (h : s.Added R t) (hlog : u.log = t.log ++ [entry])
    (hR : R entry.event) : s.Added R u := by
  intro entry' he
  rw [hlog] at he
  rcases List.mem_append.1 he with he | he
  · exact h entry' he
  · rw [List.mem_singleton.1 he]
    exact .inr hR

theorem trans (h : s.Added R t) (h' : t.Added R u) : s.Added R u := by
  intro entry he
  rcases h' entry he with he | hR
  · exact h entry he
  · exact .inr hR

theorem mono (h : s.Added R t) (hRQ : ∀ e, R e → Q e) : s.Added Q t := by
  intro entry he
  exact (h entry he).imp_right (hRQ _)

end Scene.Added

namespace Op

theorem ends_report {e : Log.Event} {done : Unit → Scene → Prop} {lost : Failure → Scene → Prop} :
    (report e).Ends c s done lost ↔ done () { s with log := s.log ++ [⟨c.context, e⟩] } := Iff.rfl

/-- A call that goes wrong is the one that the fault names, and leaves all but the calls as
    it was. -/
theorem Ends.called {call : StoreCall} {done : Unit → Scene → Prop}
    {lost : Failure → Scene → Prop} (hd : ∀ calls, done () { s with calls })
    (hl : ∀ f calls, c.fault = some f → f.call = call → lost f.failure { s with calls }) :
    (Op.reach call).Ends c s done lost := by
  unfold Ends
  rw [outcome_reach]
  cases hf : c.fault with
  | none => exact hd _
  | some f =>
    dsimp only
    by_cases h : f.call = call ∧ f.nth = (s.calls ++ [call]).count call
    · rw [if_pos h]
      exact hl f _ hf h.1
    · rw [if_neg h]
      exact hd _

/-- The same for a read. -/
theorem Ends.asked {call : StoreCall} {f : Store → α} {done : α → Scene → Prop}
    {lost : Failure → Scene → Prop} (hd : ∀ calls, done (f s.store) { s with calls })
    (hl : ∀ fault calls, c.fault = some fault → fault.call = call →
      lost fault.failure { s with calls }) : (Op.query call f).Ends c s done lost :=
  ends_bind.2 (.called (fun calls => ends_bind.2 (ends_get.2 (hd calls))) hl)

/-- A unit of work that fails leaves all but the store as its work does. -/
theorem Ends.undone {work : Op α} {done : α → Scene → Prop} {lost : Failure → Scene → Prop}
    (h : ∀ calls, work.Ends c { s with calls } done fun e t => lost e { t with store := s.store })
    (hl : ∀ f calls, c.fault = some f → lost f.failure { s with calls }) :
    (Op.unitOfWork work).Ends c s done lost := by
  refine ends_bind.2 (.called (fun calls => ?_) fun f calls hf _ => hl f calls hf)
  refine ends_bind.2 (ends_get.2 (ends_tryCatch.2 ((h calls).mono (fun _ _ h => h) ?_)))
  intro e t ht
  exact ends_bind.2 (ends_modify.2 ht)

/-- Every entry that the operation adds to the log is of this kind, however it ends. -/
def Logs (op : Op α) (R : Log.Event → Prop) : Prop :=
  ∀ c s, op.Ends c s (fun _ t => s.Added R t) fun _ t => s.Added R t

namespace Logs

variable {x : Op α} {f : α → Op β} {R : Log.Event → Prop}

theorem pure (a : α) : (pure a : Op α).Logs R := fun _ _ => .of_log rfl

theorem throw (e : Failure) : (throw e : Op α).Logs R := fun _ _ => .of_log rfl

theorem report {e : Log.Event} (h : R e) : (Op.report e).Logs R :=
  fun _ s => ends_report.2 (.snoc (.of_log (t := s) rfl) rfl h)

theorem reading {f : Conditions → Op α} (h : ∀ c, (f c).Logs R) : (read >>= f).Logs R :=
  fun c s => ends_bind.2 (ends_read.2 (h c c s))

theorem getting {f : Scene → Op α} (h : ∀ s, (f s).Logs R) : (get >>= f).Logs R :=
  fun c s => ends_bind.2 (ends_get.2 (h s c s))

theorem modify {g : Scene → Scene} (h : ∀ s, (g s).log = s.log) : (modify g : Op Unit).Logs R :=
  fun _ s => ends_modify.2 (.of_log (h s))

theorem reach (call : StoreCall) : (Op.reach call).Logs R := fun _ _ =>
  .called (fun _ => Scene.Added.of_log rfl) fun _ _ _ _ => Scene.Added.of_log rfl

theorem drawing (work : Drawing α) : (Op.drawing work).Logs R := by
  intro c s
  unfold Ends
  rw [outcome_drawing]
  rcases (work.run.run s.generator).1 with e | a
  · exact .of_log rfl
  · exact .of_log rfl

theorem ofExcept (r : Except Failure α) : (MonadExcept.ofExcept r : Op α).Logs R := by
  cases r with
  | ok a => exact .pure a
  | error e => exact .throw e

theorem bind (hx : x.Logs R) (hf : ∀ a, (f a).Logs R) : (x >>= f).Logs R := by
  intro c s
  refine ends_bind.2 ((hx c s).mono (fun a t ht => ?_) fun _ _ h => h)
  exact (hf a c t).mono (fun _ _ h => ht.trans h) fun _ _ h => ht.trans h

theorem map (g : α → β) (hx : x.Logs R) : (g <$> x).Logs R := fun c s => ends_map.2 (hx c s)

theorem tryCatch {h : Failure → Op α} (hx : x.Logs R) (hh : ∀ e, (h e).Logs R) :
    (tryCatch x h).Logs R := by
  intro c s
  refine ends_tryCatch.2 ((hx c s).mono (fun _ _ h => h) fun e t ht => ?_)
  exact (hh e c t).mono (fun _ _ h => ht.trans h) fun _ _ h => ht.trans h

theorem unlessTaken {cause : Cause} {note : Op Unit} (hx : x.Logs R) (hn : note.Logs R) :
    (Op.unlessTaken cause note x).Logs R := by
  refine hx.tryCatch fun e => ?_
  split
  · exact bind (throw e) fun _ => hn.bind fun _ => throw _
  · exact hn.bind fun _ => throw _

variable {call : StoreCall}

theorem query {f : Store → α} : (Op.query call f).Logs R :=
  .bind (.reach call) fun _ => .getting fun _ => .pure _

theorem write {f : Store → Moment → Store} : (Op.write call f).Logs R :=
  .bind (.reach call) fun _ => .reading fun _ => .modify fun _ => rfl

theorem attempt {f : Store → Moment → Except Failure Store} : (Op.attempt call f).Logs R :=
  .bind (.reach call) fun _ => .reading fun _ => .getting fun _ =>
    .bind (.ofExcept _) fun _ => .modify fun _ => rfl

theorem limited (limit : Option Int) (l : List α) : (Op.limited limit l).Logs R := by
  unfold Op.limited
  split
  · exact .pure l
  · split
    · exact .throw _
    · exact .pure _

theorem unitOfWork (hx : x.Logs R) : (Op.unitOfWork x).Logs R :=
  .bind (.reach _) fun _ => .getting fun _ =>
    .tryCatch hx fun e => .bind (.modify fun _ => rfl) fun _ => .throw e

theorem forM {f : α → Op Unit} {l : List α} (h : ∀ a, (f a).Logs R) : (l.forM f).Logs R := by
  induction l with
  | nil => exact .pure _
  | cons a l ih => exact (h a).bind fun _ => ih

theorem foldlM {f : β → α → Op β} {l : List α} {b : β} (h : ∀ b a, (f b a).Logs R) :
    (l.foldlM f b).Logs R := by
  induction l generalizing b with
  | nil => exact .pure _
  | cons a l ih => exact (h b a).bind fun _ => ih

end Logs

/-- A quiet unit of work is reported once it is done, and if it fails, nothing is. -/
theorem Ends.announces {work : Op α} {k : α → Op β} {e : α → Log.Event} {g : α → β}
    (hw : work.Logs Quiet) (hk : ∀ a, k a = Op.report (e a) >>= fun _ => pure (g a)) :
    (Op.unitOfWork work >>= k).Ends c s
      (fun b t => s.Added (fun x => x.Quiet ∨ ∃ a, b = g a ∧ x = e a) t)
      fun _ t => s.Added Quiet t := by
  refine ends_bind.2 ((hw.unitOfWork c s).mono (fun a t ht => ?_) fun _ _ h => h)
  rw [hk]
  refine ends_bind.2 (ends_report.2 (ends_pure.2 ?_))
  exact (ht.mono fun _ => Or.inl).snoc rfl (.inr ⟨a, rfl, rfl⟩)

end Op

/-! ## Counters -/

/-- The counters have grown by the entries that the history has more. -/
def Deactivation.Counts (d d' : Deactivation) (s t : Store) : Prop :=
  ∃ entries, t.history = s.history ++ entries ∧
    d'.reassigned = d.reassigned + entries.countP (·.joining.isSome) ∧
    d'.removed = d.removed + entries.countP (·.joining.isNone)

namespace Deactivation.Counts

variable {d d' d'' : Deactivation} {s t u : Store}

theorem of_history (h : t.history = s.history) : d.Counts d s t := ⟨[], by simpa using h, rfl, rfl⟩

theorem trans (h : d.Counts d' s t) (h' : d'.Counts d'' t u) : d.Counts d'' s u := by
  obtain ⟨entries, hhistory, hre, hrm⟩ := h
  obtain ⟨entries', hhistory', hre', hrm'⟩ := h'
  refine ⟨entries ++ entries', ?_, ?_, ?_⟩
  · rw [hhistory', hhistory, List.append_assoc]
  · rw [hre', hre, List.countP_append, Nat.add_assoc]
  · rw [hrm', hrm, List.countP_append, Nat.add_assoc]

theorem handOver {pull leaving : String} {joining : Option String} {now : Moment} :
    d.Counts (d.count joining) s (s.handOver pull leaving joining now) := by
  refine ⟨[⟨pull, leaving, joining, now⟩], Store.handOver_history, ?_⟩
  cases joining <;> simp [count]

end Deactivation.Counts

namespace Desk

open Op Store

variable {id name title author leaving team : String}

theorem repairPull_counts {gone : List String} {p : PullRequest} {d : Deactivation} :
    (repairPull team gone d p).Ends c s (fun d' t => d.Counts d' s.store t.store)
      fun _ _ => True := by
  refine .bind (.query (fun _ => ?_) fun _ _ _ _ => trivial)
  refine Ends.foldlM (I := fun _ d' t => d.Counts d' s.store t.store) (fun leaving _ d' t h => ?_)
    (.of_history rfl)
  refine .bind (repairSlot_ends.mono (fun joining u hu => ends_pure.2 ?_) fun _ _ _ => trivial)
  rw [hu.1]
  exact h.trans .handOver

theorem repairAll_counts {gone : List String} {pulls : List PullRequest} {d : Deactivation} :
    (pulls.foldlM (repairPull team gone) d).Ends c s (fun d' t => d.Counts d' s.store t.store)
      fun _ _ => True := by
  refine Ends.foldlM (I := fun _ d' t => d.Counts d' s.store t.store) (fun p _ d' t h => ?_)
    (.of_history rfl)
  exact repairPull_counts.mono (fun _ _ hu => h.trans hu) fun _ _ h => h

/-- What is counted is what the history holds more. -/
theorem deactivateTeam_counts : (deactivateTeam team).Ends c s
    (fun d t => ({} : Deactivation).Counts d s.store t.store) fun _ _ => True :=
  deactivateTeam_loop (fun _ _ _ h => h) fun _ => repairAll_counts

/-! ## Operations that report a change -/

theorem foundTeam_logs {R : Log.Event → Prop} : (foundTeam name).Logs R :=
  .unlessTaken .attempt (.pure _)

theorem createTeam_truthful {members : List Member} : (createTeam name members).Ends c s
    (fun _ t => s.Truthful c.now t) fun _ t => s.Added Quiet t := by
  have hlogs : (createTeam name members).Ends c s
      (fun view t => s.Added (fun e => e.Quiet ∨ ∃ rows : List User,
        view = ⟨name, rows.map User.member⟩ ∧ e = .teamCreated name rows.length) t)
      fun _ t => s.Added Quiet t :=
    .announces (.bind foundTeam_logs fun _ => .bind (.forM fun _ => .write) fun _ => .query)
      fun _ => rfl
  refine (hlogs.and createTeam_ends).mono (fun view t h => ?_) fun _ _ h => h.1
  obtain ⟨hadded, hn, ht, hmembers⟩ := h
  refine hadded.mono fun e he => ?_
  rcases he with he | ⟨rows, rfl, rfl⟩
  · exact .inl he
  · refine .inr ⟨hn, ?_, ?_⟩
    · rw [ht, founded, team?, putAll_teams]
      simp
    · simpa using (congrArg List.length hmembers).symm

theorem setUserActive_truthful {active : Bool} : (setUserActive id active).Ends c s
    (fun _ t => s.Truthful c.now t) fun _ t => s.Added Quiet t := by
  have hlogs : (setUserActive id active).Ends c s
      (fun _ t => s.Added (fun e => e.Quiet ∨ e = .userActiveUpdated id active) t)
      fun _ t => s.Added Quiet t := by
    refine (Ends.announces (.bind .query fun user => ?_) fun _ => rfl).mono
      (fun _ _ h => h.mono fun e he => he.imp_right fun ⟨_, _, he⟩ => he) fun _ _ h => h
    cases user with
    | none => exact .throw _
    | some user => exact .reading fun _ => .bind (.modify fun _ => rfl) fun _ => .pure _
  refine (hlogs.and setUserActive_ends).mono (fun _ t h => ?_) fun _ _ h => h.1
  obtain ⟨hadded, hknown, ht⟩ := h
  refine hadded.mono fun e he => ?_
  rcases he with he | rfl
  · exact .inl he
  · obtain ⟨user, huser⟩ := Option.isSome_iff_exists.1 hknown
    obtain ⟨hmem, hid⟩ := mem_of_user? huser
    rw [ht]
    refine .inr ⟨_, List.mem_map_of_mem hmem, ?_⟩
    by_cases ha : user.active = active
    · simp [hid, ha]
    · simp [hid, ha]

theorem openPull_truthful (hs : s.store.Sound) : (openPull id title author).Ends c s
    (fun _ t => s.Truthful c.now t) fun _ t => s.Added Quiet t := by
  have hlogs : (openPull id title author).Ends c s
      (fun view t => s.Added (fun e => e.Quiet ∨ ∃ r : List String × PullView, view = r.2 ∧
        e = .pullCreated id author r.2.reviewers r.1.length) t)
      fun _ t => s.Added Quiet t := by
    refine .announces (.bind .query fun user => ?_) fun _ => rfl
    cases user with
    | none => exact .throw _
    | some user =>
      dsimp only
      split
      · exact .throw _
      · refine .bind (.unlessTaken ?_ (.report rfl)) fun _ => .bind .query fun _ =>
          .reading fun _ => .bind (.drawing _) fun _ => .bind (.forM fun _ => .attempt) fun _ =>
          .pure _
        exact .bind (.reach _) fun _ => .reading fun _ => .getting fun _ =>
          .bind (.ofExcept _) fun _ => .bind (.modify fun _ => rfl) fun _ => .pure _
  refine (hlogs.and openPull_ends).mono (fun view t h => ?_) fun _ _ h => h.1
  obtain ⟨hadded, rfl, rfl, rfl, hopening⟩ := h
  refine hadded.mono fun e he => ?_
  rcases he with he | ⟨⟨pool, view⟩, rfl, rfl⟩
  · exact .inl he
  · obtain ⟨hfresh, hshown, -, ht⟩ := hopening
    refine .inr ⟨hfresh, ⟨view.row, ?_, rfl, rfl, ?_⟩, ?_⟩
    · rw [ht]
      exact List.mem_append_right _ (List.mem_singleton_self _)
    · exact congrArg PullView.status hshown
    · rw [ht]
      exact reviewers_opened_perm (p := view.row) (hs.seats_eq_nil hfresh)

theorem unassign_logs {R : Log.Event → Prop} {reviewer : String} :
    (Op.unassign id reviewer).Logs R :=
  .bind .query fun _ => .bind (.modify fun _ => rfl) fun _ => .pure _

theorem replaceReviewer_truthful : (replaceReviewer id leaving).Ends c s
    (fun _ t => s.Truthful c.now t) fun _ t => s.Added Quiet t := by
  have hlogs : (replaceReviewer id leaving).Ends c s
      (fun r t => s.Added (fun e => e.Quiet ∨ ∃ r' : PullView × String, r = (r'.1, r'.2) ∧
        e = .reviewerReassigned id leaving r'.2) t)
      fun _ t => s.Added Quiet t := by
    refine .announces (.bind .query fun pull => ?_) fun _ => rfl
    cases pull with
    | none => exact .throw _
    | some pull =>
    dsimp only
    split
    next => exact .throw _
    next =>
    refine .bind .query fun _ => ?_
    split
    next => exact .bind (.report rfl) fun _ => .throw _
    next =>
    refine .bind .query fun user => ?_
    cases user with
    | none => exact .throw _
    | some user =>
    refine .bind .query fun _ => .bind (.drawing _) fun joining => ?_
    cases joining with
    | none => exact .throw _
    | some joining =>
      exact .bind unassign_logs fun _ => .bind .attempt fun _ => .bind .write fun _ => .pure _
  refine (hlogs.and replaceReviewer_ends).mono (fun r t h => ?_) fun _ _ h => h.1
  obtain ⟨hadded, p, hp, rfl, ho, hleaving, hjoin, ht, -⟩ := h
  refine hadded.mono fun e he => ?_
  rcases he with he | ⟨r, rfl, rfl⟩
  · exact .inl he
  · have hne : leaving ≠ r.2 := fun he => hjoin.fresh (he ▸ hleaving)
    refine .inr ⟨⟨hleaving, fun hl => ?_⟩, ⟨hjoin.fresh, ?_⟩, ?_⟩
    · rw [ht, mem_reviewers_handOver] at hl
      rcases hl with he | ⟨-, hl⟩
      · exact hne (Option.some.inj he).symm
      · exact hl rfl
    · rw [ht, mem_reviewers_handOver]
      exact .inl rfl
    · rw [ht, handOver_history]

theorem repairSlot_logs {p : PullRequest} : (repairSlot team p leaving).Logs Quiet := by
  refine .bind unassign_logs fun _ => .bind .query fun _ => .bind .query fun _ =>
    .bind (.drawing _) fun joining => ?_
  cases joining with
  | none => exact .bind .write fun _ => .bind (.report rfl) fun _ => .pure _
  | some joining =>
    exact .bind .attempt fun _ => .bind .write fun _ => .bind (.report rfl) fun _ => .pure _

theorem deactivateTeam_truthful (hs : s.store.Sound) : (deactivateTeam team).Ends c s
    (fun _ t => s.Truthful c.now t) fun _ t => s.Added Quiet t := by
  have hlogs : (deactivateTeam team).Ends c s
      (fun d t => s.Added (fun e => e.Quiet ∨ ∃ r : Option Nat × Deactivation, d = r.2 ∧
        e = .teamDeactivated team r.1 r.2.deactivated r.2.reassigned r.2.removed) t)
      fun _ t => s.Added Quiet t := by
    refine .announces (.bind .query fun found => ?_) fun _ => rfl
    cases found with
    | none => exact .throw _
    | some found =>
    refine .bind (.bind .query fun _ => .reading fun _ => .bind (.modify fun _ => rfl) fun _ =>
      .pure _) fun gone => ?_
    split
    next => exact .pure _
    next =>
    refine .bind .query fun _ => .bind (.foldlM fun d p => ?_) fun _ => .pure _
    exact .bind .query fun _ => .foldlM fun _ _ => .bind repairSlot_logs fun _ => .pure _
  refine (hlogs.and ((deactivateTeam_ends hs).and deactivateTeam_counts)).mono (fun d t h => ?_)
    fun _ _ h => h.1
  obtain ⟨hadded, ⟨-, hcount, hcascading, -⟩, entries, hhistory, hre, hrm⟩ := h
  refine hadded.mono fun e he => ?_
  rcases he with he | ⟨⟨impacted, d⟩, rfl, rfl⟩
  · exact .inl he
  · refine .inr ⟨hcount.symm, fun u hu hteam => ?_, entries, hhistory, ?_, ?_⟩
    · rw [hcascading.run.users_eq, switchOff_users] at hu
      obtain ⟨v, -, rfl⟩ := List.mem_map.1 hu
      rw [← Bool.not_eq_true, User.switchedOff_active]
      rintro ⟨-, hne⟩
      rw [User.switchedOff_team] at hteam
      exact hne hteam
    · rw [hre, Nat.zero_add]
    · rw [hrm, Nat.zero_add]

/-! ## Merging -/

/-- A merge has been reported and then undone: the reviewers were read in vain. -/
def Undone (c : Conditions) (id : String) (e : Failure) (event : Log.Event) : Prop :=
  event = .pullTransition id .opened .merged ∧
    ∃ f, c.fault = some f ∧ f.call = .listReviewers ∧ e = f.failure

/-- A merge that reads the reviewers in vain is undone after it has been reported. -/
theorem merge_truthful : (merge id).Ends c s (fun _ t => s.Truthful c.now t)
    fun e t => s.Added (fun x => x.Quiet ∨ Undone c id e x) t := by
  refine .bind (.undone (fun _ => .bind (.asked (fun _ => ?_) fun _ _ _ _ => .of_log rfl))
    fun _ _ _ => .of_log rfl)
  cases hp : s.store.pull? id with
  | none => exact ends_refuse.2 (.of_log rfl)
  | some pull =>
  obtain ⟨hmem, rfl⟩ := mem_of_pull? hp
  dsimp only
  split
  next hm =>
    refine .bind (ends_pure.2 (.bind (.asked (fun _ => ends_pure.2 ?_) fun _ _ _ _ => .of_log rfl)))
    refine .bind (ends_report.2 (ends_pure.2 ?_))
    refine Scene.Added.snoc (.of_log (t := s) rfl) rfl (.inr ⟨?_, ?_⟩)
    · exact ⟨pull, hmem, rfl, by simp [hm]⟩
    · exact ⟨pull, hmem, rfl, hm, rfl⟩
  next hm =>
    have ho : pull.status = .opened := Status.eq_opened hm
    have hmoved : pull.withStatus .merged c.now ∈
        (s.store.setStatus pull.id .merged c.now).pulls :=
      List.mem_map.2 ⟨pull, hmem, if_pos rfl⟩
    refine .bind ((ends_transition ho).2 (.bind (.asked (fun _ => ends_pure.2 ?_)
      fun f _ hf hcall => ?_)))
    · refine .bind (ends_report.2 (ends_pure.2 ?_))
      refine Scene.Added.snoc (Scene.Added.snoc (.of_log (t := s) rfl) rfl (.inr ?_)) rfl (.inr ?_)
      · exact ⟨⟨pull, hmem, rfl, ho⟩, _, hmoved, rfl, rfl⟩
      · exact ⟨⟨pull, hmem, rfl, by simp [ho]⟩, _, hmoved, rfl, rfl, rfl⟩
    · exact Scene.Added.snoc (.of_log (t := s) rfl) rfl (.inr ⟨rfl, f, hf, hcall, rfl⟩)

/-! ## Operations that report no change -/

section
variable {R : Log.Event → Prop}

theorem showTeam_logs : (showTeam name).Logs R := by
  refine .unitOfWork (.bind .query fun team => ?_)
  cases team with
  | none => exact .throw _
  | some team => exact .bind .query fun _ => .pure _

theorem listReviews_logs {limit : Option Int} : (Op.listReviews id limit).Logs R :=
  .bind .query fun _ => .limited _ _

theorem reviewsOf_logs : (reviewsOf id).Logs R :=
  .unitOfWork (.bind listReviews_logs fun _ => .pure _)

theorem countByReviewer_logs {w : Window} {limit : Option Int} :
    (Op.countByReviewer w limit).Logs R :=
  .bind .query fun _ => .limited _ _

theorem overview_logs : overview.Logs R :=
  .bind (.unitOfWork (.bind countByReviewer_logs fun _ => .bind .query fun _ => .bind .query
    fun _ => .bind .query fun _ => .pure _)) fun _ => .pure _

theorem summary_logs {f : SummaryFilter} : (summary f).Logs R :=
  .unitOfWork (.reading fun _ => .bind countByReviewer_logs fun _ => .bind .query fun _ =>
    .bind .query fun _ => .pure _)

theorem reviewerReport_logs {limit : Int} : (reviewerReport id limit).Logs R := by
  refine .unitOfWork (.bind .query fun user => ?_)
  cases user with
  | none => exact .throw _
  | some user =>
    exact .bind .query fun _ => .reading fun _ => .bind listReviews_logs fun _ => .pure _

theorem pullReport_logs : (pullReport id).Logs R := by
  refine .unitOfWork (.bind .query fun pull => ?_)
  cases pull with
  | none => exact .throw _
  | some pull => exact .bind .query fun _ => .bind .query fun _ => .pure _

theorem consult_logs {call : StoreCall} {a : Argument} : (consult call a).Logs R := by
  refine .bind (.reach call) fun _ => ?_
  cases a.obstacle? with
  | none => exact .pure _
  | some f => exact .throw f

theorem absent_logs {call : StoreCall} {cause : Cause} {a : Argument} :
    (absent call cause a : Op α).Logs R :=
  .unitOfWork (.bind consult_logs fun _ => .throw _)

theorem notStored_logs {call : StoreCall} {table : String} {l : List Argument} :
    (notStored call table l : Op α).Logs R :=
  .bind (.reach call) fun _ => .throw _

end

theorem createWith_logs {members : List (MemberEntry Argument)} :
    (createWith name members).Logs Quiet := by
  refine .unitOfWork (.bind foundTeam_logs fun _ => .bind (.forM fun m => ?_) fun _ =>
    .bind .query fun _ => .pure _)
  unfold putEntry
  cases m.complete? with
  | some m => exact .write
  | none => exact notStored_logs

theorem openUnnamed_logs {pull title : Argument} :
    (openUnnamed pull title author).Logs Quiet := by
  refine .unitOfWork (.bind .query fun user => ?_)
  cases user with
  | none => exact .throw _
  | some user =>
    dsimp only
    split
    · exact .throw _
    · exact .unlessTaken notStored_logs (.report rfl)

theorem replaceUnnamed_logs {leaving : Argument} : (replaceUnnamed id leaving).Logs Quiet := by
  refine .unitOfWork (.bind .query fun pull => ?_)
  cases pull with
  | none => exact .throw _
  | some pull =>
    dsimp only
    split
    · exact .throw _
    · exact .bind .query fun _ => .bind (.report rfl) fun _ => .throw _

theorem performIncomplete_logs {r : Request Argument} : (performIncomplete r).Logs Quiet := by
  cases r with
  | createTeam team =>
    cases team with
    | text => exact createWith_logs
    | missing | broken => exact .unitOfWork (.unlessTaken notStored_logs (.pure _))
  | reviewsOf => exact .unitOfWork (.bind consult_logs fun _ => .pure _)
  | openPull _ _ author =>
    cases author with
    | text => exact openUnnamed_logs
    | missing | broken => exact absent_logs
  | replaceReviewer pull =>
    cases pull with
    | text => exact replaceUnnamed_logs
    | missing | broken => exact absent_logs
  | overview => exact overview_logs.map _
  | summary => exact summary_logs.map _
  | showTeam | setUserActive | merge | deactivateTeam | reviewerReport | pullReport =>
    exact absent_logs

/-! ## All requests -/

/-- **What the log says of a request is true**, but that a merge may be undone. -/
theorem performAny_truthful {r : Request Argument} (hs : s.store.Sound) : (performAny r).Ends c s
    (fun _ t => s.Truthful c.now t)
    fun e t => s.Added (fun x => x.Quiet ∨ ∃ id, r = .merge (.text id) ∧ Undone c id e x) t := by
  have hquiet : ∀ {op : Op Answer}, op.Logs Quiet → op.Ends c s (fun _ t => s.Truthful c.now t)
      fun e t => s.Added (fun x => x.Quiet ∨ ∃ id, r = .merge (.text id) ∧ Undone c id e x) t :=
    fun h => (h c s).mono (fun _ _ h => h.mono fun _ => Or.inl) fun _ _ h => h.mono fun _ => Or.inl
  have hchange : ∀ {γ : Type} {op : Op γ} {g : γ → Answer},
      op.Ends c s (fun _ t => s.Truthful c.now t) (fun _ t => s.Added Quiet t) →
      (g <$> op).Ends c s (fun _ t => s.Truthful c.now t)
        fun e t => s.Added (fun x => x.Quiet ∨ ∃ id, r = .merge (.text id) ∧ Undone c id e x) t :=
    fun h => ends_map.2 (h.mono (fun _ _ h => h) fun _ _ h => h.mono fun _ => Or.inl)
  unfold performAny
  cases hr : r.complete? with
  | none => exact hquiet performIncomplete_logs
  | some r' =>
  cases r' with
  | createTeam => exact hchange createTeam_truthful
  | setUserActive => exact hchange setUserActive_truthful
  | openPull => exact hchange (openPull_truthful hs)
  | replaceReviewer =>
    refine .bind (replaceReviewer_truthful.mono (fun _ _ h => ends_pure.2 h) fun _ _ h => ?_)
    exact h.mono fun _ => Or.inl
  | deactivateTeam => exact hchange (deactivateTeam_truthful hs)
  | merge id =>
    refine ends_map.2 (merge_truthful.mono (fun _ _ h => h) fun e t h => h.mono fun x hx => ?_)
    exact hx.imp_right fun hx => ⟨id, complete?_eq_merge hr, hx⟩
  | showTeam => exact hquiet (showTeam_logs.map _)
  | reviewsOf => exact hquiet (reviewsOf_logs.map _)
  | overview => exact hquiet (overview_logs.map _)
  | summary => exact hquiet (summary_logs.map _)
  | reviewerReport => exact hquiet (reviewerReport_logs.map _)
  | pullReport => exact hquiet (pullReport_logs.map _)

end Desk

open Op in
/-- The service reports no change of its own. -/
theorem Service.perform_truthful {r : Request Argument} (hs : s.store.Sound) :
    (perform r).Ends c s (fun _ t => s.Truthful c.now t) fun e t =>
      s.Added (fun x => x.Quiet ∨ ∃ id, r = .merge (.text id) ∧ Desk.Undone c id e x) t := by
  refine perform_of_desk (fun _ _ => .of_log rfl) (fun _ => .of_log rfl) (fun t ht => ?_)
    (Desk.performAny_truthful hs)
  exact ends_report.2 (ht.snoc rfl (.inl rfl))

/-! ## Steps -/

namespace Session

open Op

variable {engine : Settings.Engine} {s : Session} {x : Step} {r : Request Argument}

/-- **What the log reports has been done.**  If a request to the service leaves an entry
    in the log which reports a change, then it has been answered, and the change is in the
    store.  The one exception is a merge whose last call goes wrong, the one for the
    reviewers: the transition is in the log, and the store is as it was. -/
theorem Reachable.changes_reported {entry : Log.Entry} (h : s.Reachable engine)
    (hx : x.action = .service r) (hentry : entry ∈ (s.take x).2.1.log)
    (hlevel : entry.event.level = .info) (hname : entry.event.name ∈ Log.Event.changes) :
    (∃ a, (s.take x).1 = .ok (.answer a) ∧
      entry.event.Stands (s.conditions x.site.settings.engine x.cue).now s.store
        (s.next x).store) ∨
    ∃ id f, r = .merge (.text id) ∧ entry.event = .pullTransition id .opened .merged ∧
      x.cue.fault = some f ∧ f.call = .listReviewers ∧ (s.take x).1 = .error f.failure ∧
      (s.next x).store = s.store := by
  have hchange : ¬ entry.event.Quiet := by
    rw [Log.Event.Quiet, Bool.not_eq_false, Log.Event.reportsChange_iff]
    exact ⟨hlevel, hname⟩
  have hends : (x.action.work x.site s.serving).Ends
      (s.conditions x.site.settings.engine x.cue) (s.scene x.cue)
      (fun reply t => (∃ a, reply = .answer a) ∧
        (s.scene x.cue).Truthful (s.conditions x.site.settings.engine x.cue).now t)
      fun e t => t.store = s.store ∧ (s.scene x.cue).Added (fun event => event.Quiet ∨
        ∃ id, r = .merge (.text id) ∧
          Desk.Undone (s.conditions x.site.settings.engine x.cue) id e event) t := by
    rw [hx]
    refine ends_map.2 (((Service.perform_truthful h.sound).and
      (Service.perform_restores h.sound)).mono (fun a t ht => ?_) fun e t ht => ?_)
    · exact ⟨⟨a, rfl⟩, ht.1⟩
    · exact ⟨ht.2, ht.1⟩
  rcases take_of_ends hends with ⟨reply, hr, ⟨a, rfl⟩, htrue⟩ | ⟨e, hr, hstore, hadded⟩
  · -- the scene of a step begins with an empty log
    have hstands := ((htrue entry hentry).resolve_left List.not_mem_nil).resolve_left hchange
    exact .inl ⟨a, hr, hstands⟩
  · obtain ⟨id, hmerge, hevent, f, hf, hcall, rfl⟩ :=
      ((hadded entry hentry).resolve_left List.not_mem_nil).resolve_left hchange
    exact .inr ⟨id, f, hmerge, hevent, hf, hcall, hr, hstore⟩

theorem changes_reported_opening :
    let s := blank.along opening
    let x : Step := { action := .service (.deactivateTeam (.text "core")) }
    ∃ a, (s.take x).1 = .ok (.answer a) ∧
      (Log.Event.teamDeactivated "core" (some 1) 4 2 0).Stands (s.conditions {} x.cue).now s.store
        (s.next x).store := by
  have hevent : .teamDeactivated "core" (some 1) 4 2 0 ∈ ((blank.along opening).take
      { action := .service (.deactivateTeam (.text "core")) }).2.1.log.map Log.Entry.event := by
    decide +kernel
  obtain ⟨entry, hentry, he⟩ := List.mem_map.1 hevent
  have hlevel : entry.event.level = .info := by
    rw [he]
    rfl
  have hname : entry.event.name ∈ Log.Event.changes := by
    rw [he]
    decide
  rcases reachable_opening.changes_reported rfl hentry hlevel hname with
      ⟨a, ha, hstands⟩ | ⟨_, _, hm, -⟩
  · rw [he] at hstands
    exact ⟨a, ha, hstands⟩
  · cases hm

/-- **A transition in the log that was undone.**  The reviewers cannot be read, so the
    pull request stays open, but the log says that it has moved. -/
theorem changes_reported_undone :
    let s := blank.along opening
    let x : Step :=
      { cue := { fault := some ⟨.listReviewers, 1, .stall⟩ },
        action := .service (.merge (.text "p1")) }
    s.Reachable {} ∧
      .pullTransition "p1" .opened .merged ∈ (s.take x).2.1.log.map Log.Entry.event ∧
      (s.take x).1.isOk = false ∧ (s.next x).store = s.store := by
  refine ⟨reachable_opening, ?_, ?_, ?_⟩
  all_goals decide +kernel

end Session

end ReviewRota
