/-
  ReviewRota — how operations end.

  An operation ends in an answer or a failure and leaves a scene.  `Op.Ends` says
  what holds of either end; its rules follow the way operations are put together,
  so that what is true of a whole operation is read off its parts.

  * `Fault.Strikes`: the call that goes wrong is among the calls made, and
    `Conditions.Struck` is a failure that comes from it;
  * `Op.Ends` with `Ends.mono`, `ends_bind` and a rule for each primitive;
  * `Ends.unitOfWork`: a unit of work that fails leaves the store as it was;
  * `Ends.forM` and `Ends.foldlM`: loops, by what holds before each round;
  * `Op.Reads`: the store is as it was, however the operation ends.
-/
import ReviewRota.Operation
import Mathlib

namespace ReviewRota

variable {α β γ : Type} {c : Conditions} {s : Scene}

/-! ## Faults that strike -/

/-- The calls hold the one that goes wrong. -/
def Fault.Strikes (f : Fault) (calls : List StoreCall) : Prop :=
  1 ≤ f.nth ∧ f.nth ≤ calls.count f.call

instance {f : Fault} {calls : List StoreCall} : Decidable (f.Strikes calls) :=
  inferInstanceAs (Decidable (_ ∧ _))

/-- The failure is that of a call which went wrong before the scene was left. -/
def Conditions.Struck (c : Conditions) (e : Failure) (t : Scene) : Prop :=
  ∃ f, c.fault = some f ∧ e = f.failure ∧ f.Strikes t.calls

namespace Op

/-! ## Outcomes -/

theorem outcome_bind (x : Op α) (f : α → Op β) : (x >>= f).outcome c s =
    match x.outcome c s with
    | (.ok a, t) => (f a).outcome c t
    | (.error e, t) => (.error e, t) := by
  simp only [outcome, ReaderT.run_bind, ExceptT.run_bind, StateT.run_bind]
  rcases h : ((x.run c).run).run s with ⟨r, t⟩
  cases r <;> rfl

theorem outcome_map {x : Op α} {g : α → β} :
    (g <$> x).outcome c s = (g <$> (x.outcome c s).1, (x.outcome c s).2) := by
  rw [map_eq_pure_bind, outcome_bind]
  rcases x.outcome c s with ⟨_ | _, _⟩ <;> rfl

theorem outcome_tryCatch (x : Op α) (g : Failure → Op α) : (tryCatch x g).outcome c s =
    match x.outcome c s with
    | (.ok a, t) => (.ok a, t)
    | (.error e, t) => (g e).outcome c t := by
  simp only [outcome, tryCatch, tryCatchThe, MonadExceptOf.tryCatch, ReaderT.run, ExceptT.run,
    ExceptT.tryCatch, ExceptT.mk, StateT.run_bind]
  rcases h : StateT.run (x c) s with ⟨r, t⟩
  cases r <;> rfl

/-- A call is noted, and goes wrong if it is the one. -/
theorem outcome_reach {call : StoreCall} :
    (reach call).outcome c s =
      ((match c.fault with
        | some f => if f.call = call ∧ f.nth = (s.calls ++ [call]).count call then .error f.failure
          else .ok ()
        | none => .ok ()), { s with calls := s.calls ++ [call] }) := by
  rcases c with ⟨now, settings, context, _ | f⟩
  · rfl
  · change (if f.call = call ∧ f.nth = (s.calls ++ [call]).count call then
        throw f.failure else pure () : Op Unit).outcome _ _ = _
    by_cases h : f.call = call ∧ f.nth = (s.calls ++ [call]).count call
    · simp only [if_pos h]
      rfl
    · simp only [if_neg h]
      rfl

/-- What holds of the two ends of an operation: of the answer and the scene left
    with it, and of the failure and the scene left with that. -/
def Ends (op : Op α) (c : Conditions) (s : Scene) (done : α → Scene → Prop)
    (lost : Failure → Scene → Prop) : Prop :=
  match op.outcome c s with
  | (.ok a, t) => done a t
  | (.error e, t) => lost e t

variable {op x : Op α} {f : α → Op β} {done : α → Scene → Prop} {lost : Failure → Scene → Prop}

theorem Ends.ok {a : α} {t : Scene} (h : op.Ends c s done lost) (ho : op.outcome c s = (.ok a, t)) :
    done a t := by
  rw [Ends, ho] at h; exact h

theorem Ends.error {e : Failure} {t : Scene} (h : op.Ends c s done lost)
    (ho : op.outcome c s = (.error e, t)) : lost e t := by
  rw [Ends, ho] at h; exact h

theorem ends_iff : op.Ends c s done lost ↔
    (∀ a t, op.outcome c s = (.ok a, t) → done a t) ∧
      ∀ e t, op.outcome c s = (.error e, t) → lost e t := by
  refine ⟨fun h => ⟨fun _ _ => h.ok, fun _ _ => h.error⟩, fun ⟨h₁, h₂⟩ => ?_⟩
  unfold Ends
  split
  next a t h => exact h₁ a t h
  next e t h => exact h₂ e t h

theorem Ends.mono {done' : α → Scene → Prop} {lost' : Failure → Scene → Prop}
    (h : op.Ends c s done lost) (hd : ∀ a t, done a t → done' a t)
    (hl : ∀ e t, lost e t → lost' e t) : op.Ends c s done' lost' :=
  ends_iff.2 ⟨fun _ _ ho => hd _ _ (h.ok ho), fun _ _ ho => hl _ _ (h.error ho)⟩

theorem Ends.and {done' : α → Scene → Prop} {lost' : Failure → Scene → Prop}
    (h : op.Ends c s done lost) (h' : op.Ends c s done' lost') :
    op.Ends c s (fun a t => done a t ∧ done' a t) fun e t => lost e t ∧ lost' e t :=
  ends_iff.2 ⟨fun _ _ ho => ⟨h.ok ho, h'.ok ho⟩, fun _ _ ho => ⟨h.error ho, h'.error ho⟩⟩

/-! ## Putting operations together -/

theorem ends_pure {a : α} : (pure a : Op α).Ends c s done lost ↔ done a s := Iff.rfl

theorem ends_throw {e : Failure} : (throw e : Op α).Ends c s done lost ↔ lost e s := Iff.rfl

theorem ends_refuse {cause : Cause} :
    (refuse cause : Op α).Ends c s done lost ↔ lost (.refused ⟨cause, ""⟩) s := Iff.rfl

theorem ends_read {done : Conditions → Scene → Prop} :
    (read : Op Conditions).Ends c s done lost ↔ done c s := Iff.rfl

theorem ends_get {done : Scene → Scene → Prop} :
    (get : Op Scene).Ends c s done lost ↔ done s s := Iff.rfl

theorem ends_modify {g : Scene → Scene} {done : Unit → Scene → Prop} :
    (modify g : Op Unit).Ends c s done lost ↔ done () (g s) := Iff.rfl

theorem ends_withReader {g : Conditions → Conditions} :
    (withReader g op : Op α).Ends c s done lost ↔ op.Ends (g c) s done lost := Iff.rfl

theorem ends_bind {done : β → Scene → Prop} : (x >>= f).Ends c s done lost ↔
    x.Ends c s (fun a t => (f a).Ends c t done lost) lost := by
  simp only [Ends, outcome_bind]
  rcases x.outcome c s with ⟨r, t⟩
  cases r <;> rfl

theorem ends_map {g : α → β} {done : β → Scene → Prop} :
    (g <$> x).Ends c s done lost ↔ x.Ends c s (fun a t => done (g a) t) lost := by
  rw [map_eq_pure_bind, ends_bind]; rfl

theorem ends_tryCatch {h : Failure → Op α} : (tryCatch x h).Ends c s done lost ↔
    x.Ends c s done fun e t => (h e).Ends c t done lost := by
  simp only [Ends, outcome_tryCatch]
  rcases x.outcome c s with ⟨r, t⟩
  cases r <;> rfl

theorem Ends.bind {done : β → Scene → Prop}
    (h : x.Ends c s (fun a t => (f a).Ends c t done lost) lost) : (x >>= f).Ends c s done lost :=
  ends_bind.2 h

theorem Ends.ofExcept {r : Except Failure α} (hd : ∀ a, r = .ok a → done a s)
    (hl : ∀ e, r = .error e → lost e s) : (MonadExcept.ofExcept r : Op α).Ends c s done lost := by
  cases r with
  | ok a => exact hd a rfl
  | error e => exact hl e rfl

/-- Of a duplicate key there is a note, and then a refusal; other failures stay. -/
theorem ends_unlessTaken {cause : Cause} {note : Op Unit} :
    (unlessTaken cause note op).Ends c s done lost ↔ op.Ends c s done fun e t =>
      if e.isDuplicate then note.Ends c t (fun _ => lost (.refused ⟨cause, ""⟩)) lost
      else lost e t := by
  have hhandler : ∀ (e : Failure) (t : Scene), (do
        if !e.isDuplicate then throw e
        note
        refuse cause : Op α).Ends c t done lost ↔
      if e.isDuplicate then note.Ends c t (fun _ => lost (.refused ⟨cause, ""⟩)) lost
      else lost e t := by
    intro e t
    cases e.isDuplicate
    · exact Iff.rfl
    · exact ends_bind
  simp only [unlessTaken, ends_tryCatch, hhandler]

/-! ## Log and calls -/

/-- A report changes nothing but the log. -/
theorem Ends.report {e : Log.Event} {done : Unit → Scene → Prop}
    (h : ∀ log, done () { s with log }) : (report e).Ends c s done lost :=
  ends_bind.2 (h _)

/-- A call to the store is noted, and perhaps goes wrong. -/
theorem Ends.reach {call : StoreCall} {done : Unit → Scene → Prop}
    (hd : ∀ calls, done () { s with calls })
    (hl : ∀ e t, c.Struck e t → t.store = s.store → lost e t) :
    (reach call).Ends c s done lost := by
  refine ends_bind.2 (ends_modify.2 (ends_bind.2 (ends_read.2 ?_)))
  cases hf : c.fault with
  | none => exact hd _
  | some f =>
    refine ends_bind.2 (ends_get.2 ?_)
    split
    next h =>
      obtain ⟨rfl, hn⟩ := h
      refine ends_throw.2 (hl _ _ ⟨f, hf, rfl, ?_, hn.le⟩ rfl)
      rw [hn, List.count_append, List.count_singleton_self]; omega
    next => exact hd _

/-- A read is a call that leaves the store alone. -/
theorem Ends.query {call : StoreCall} {f : Store → α}
    (hd : ∀ calls, done (f s.store) { s with calls })
    (hl : ∀ e t, c.Struck e t → t.store = s.store → lost e t) :
    (query call f).Ends c s done lost := by
  refine ends_bind.2 (.reach (fun calls => ?_) hl)
  exact ends_bind.2 (ends_get.2 (hd calls))

/-- A write is a call that changes the store at the time of the operation. -/
theorem Ends.write {call : StoreCall} {f : Store → Moment → Store} {done : Unit → Scene → Prop}
    (hd : ∀ calls, done () { s with calls, store := f s.store c.now })
    (hl : ∀ e t, c.Struck e t → t.store = s.store → lost e t) :
    (write call f).Ends c s done lost := by
  refine ends_bind.2 (.reach (fun calls => ?_) hl)
  exact ends_bind.2 (ends_read.2 (ends_modify.2 (hd calls)))

/-- A change that the store may refuse. -/
theorem Ends.attempt {call : StoreCall} {f : Store → Moment → Except Failure Store}
    {done : Unit → Scene → Prop}
    (hd : ∀ calls store, f s.store c.now = .ok store → done () { s with calls, store })
    (hr : ∀ calls e, f s.store c.now = .error e → lost e { s with calls })
    (hl : ∀ e t, c.Struck e t → t.store = s.store → lost e t) :
    (attempt call f).Ends c s done lost := by
  refine ends_bind.2 (.reach (fun calls => ?_) hl)
  refine ends_bind.2 (ends_read.2 (ends_bind.2 (ends_get.2 (ends_bind.2 (.ofExcept ?_ ?_)))))
  · intro store h
    exact ends_modify.2 (hd calls store h)
  · exact hr calls

/-! ## Units of work -/

/-- A unit of work keeps what is done inside it only if all of it is done. -/
theorem Ends.unitOfWork {work : Op α}
    (h : ∀ calls, work.Ends c { s with calls } done fun e t => lost e { t with store := s.store })
    (hl : ∀ e t, c.Struck e t → t.store = s.store → lost e t) :
    (Op.unitOfWork work).Ends c s done lost := by
  refine ends_bind.2 (.reach (fun calls => ?_) hl)
  refine ends_bind.2 (ends_get.2 (ends_tryCatch.2 ((h calls).mono (fun _ _ h => h) ?_)))
  intro e t ht
  exact ends_bind.2 (ends_modify.2 ht)

/-- Whatever fails inside a unit of work, the store is the one from before. -/
theorem Ends.unitOfWork_restores {work : Op α}
    (h : ∀ calls, work.Ends c { s with calls } done fun _ _ => True) :
    (Op.unitOfWork work).Ends c s done fun _ t => t.store = s.store := by
  refine .unitOfWork (fun calls => ?_) fun _ _ _ h => h
  exact (h calls).mono (fun _ _ h => h) fun _ _ _ => rfl

/-- A unit of work and what follows it, which cannot be undone. -/
theorem Ends.commit {P : α → Store → Prop} {work : Op α} {done : β → Scene → Prop}
    (hw : ∀ calls, work.Ends c { s with calls } (fun a t => P a t.store) fun _ _ => True)
    (hf : ∀ a t, P a t.store → (f a).Ends c t done fun _ t => t.store = s.store) :
    (Op.unitOfWork work >>= f).Ends c s done fun _ t => t.store = s.store :=
  ends_bind.2 ((unitOfWork_restores hw).mono hf fun _ _ h => h)

/-! ## Loops -/

theorem Ends.foldlM {f : β → α → Op β} {I : List α → β → Scene → Prop} {l : List α} {b : β}
    (h : ∀ a l b t, I (a :: l) b t → (f b a).Ends c t (I l) lost) (h₀ : I l b s) :
    (l.foldlM f b).Ends c s (I []) lost := by
  induction l generalizing b s with
  | nil => exact h₀
  | cons a l ih =>
    have ha := h a l b s h₀
    exact ends_bind.2 (ha.mono (fun _ _ => ih) fun _ _ h => h)

theorem Ends.forM {f : α → Op Unit} {I : List α → Scene → Prop} {l : List α}
    (h : ∀ a l t, I (a :: l) t → (f a).Ends c t (fun _ => I l) lost) (h₀ : I l s) :
    (l.forM f).Ends c s (fun _ => I []) lost := by
  induction l generalizing s with
  | nil => exact h₀
  | cons a l ih =>
    have ha := h a l s h₀
    exact ends_bind.2 (ha.mono (fun _ _ => ih) fun _ _ h => h)

/-! ## Reading -/

/-- However the operation ends, the store is as it was. -/
def Reads (op : Op α) : Prop :=
  ∀ c s, op.Ends c s (fun _ t => t.store = s.store) fun _ t => t.store = s.store

namespace Reads

theorem pure (a : α) : (pure a : Op α).Reads := fun _ _ => rfl

theorem throw (e : Failure) : (throw e : Op α).Reads := fun _ _ => rfl

theorem read : (read : Op Conditions).Reads := fun _ _ => rfl

theorem report (e : Log.Event) : (Op.report e).Reads := fun _ _ => .report fun _ => rfl

theorem reach (call : StoreCall) : (Op.reach call).Reads :=
  fun _ _ => .reach (fun _ => rfl) fun _ _ _ h => h

theorem query (call : StoreCall) (f : Store → α) : (Op.query call f).Reads :=
  fun _ _ => .query (fun _ => rfl) fun _ _ _ h => h

theorem bind (hx : x.Reads) (hf : ∀ a, (f a).Reads) : (x >>= f).Reads := by
  intro c s
  refine ends_bind.2 ((hx c s).mono (fun a t ht => ?_) fun _ _ h => h)
  have hft := hf a c t
  rwa [ht] at hft

theorem map (g : α → β) (hx : x.Reads) : (g <$> x).Reads := fun c s => ends_map.2 (hx c s)

theorem limited (limit : Option Int) (l : List α) : (Op.limited limit l).Reads := by
  unfold Op.limited
  split
  · exact pure l
  · split
    · exact throw _
    · exact pure _

theorem unlessTaken {cause : Cause} {note : Op Unit} (hn : note.Reads) (hx : x.Reads) :
    (Op.unlessTaken cause note x).Reads := by
  intro c s
  refine ends_unlessTaken.2 ((hx c s).mono (fun _ _ h => h) fun e t ht => ?_)
  split
  · exact ht ▸ hn c t
  · exact ht

theorem unitOfWork (hx : x.Reads) : (Op.unitOfWork x).Reads := by
  intro c s
  refine .unitOfWork_restores fun calls => ?_
  exact (hx c _).mono (fun _ _ h => h) fun _ _ _ => trivial

end Reads

end Op

end ReviewRota
