/-
  ReviewRota — what a fault can do.

  The call that goes wrong either is reached or it is not.  If it is not, nothing tells
  that it would have gone wrong: the step is the same as without the fault.  If the
  step fails, for this reason or another, the store is the one from before it, so that
  whoever asks again finds everything as if nothing had been tried.

  * `Op.Unwarned`: with the fault and without it an operation does the same, unless
    both ways reach the call that goes wrong; there is a rule for each primitive and
    for each way in which operations are put together;
  * `Plain.unwarned`: so all that the service does is of this kind;
  * `Step.faultless`: the step with no fault in store;
  * `Session.Reachable.all_or_nothing`: what a fault leaves of a request to the service.
-/
import ReviewRota.Proofs.Answers
import ReviewRota.Proofs.Plain

namespace ReviewRota

variable {α β : Type}

/-- A call that has gone wrong stays among the calls. -/
theorem Fault.Strikes.mono {f : Fault} {calls calls' : List StoreCall} (h : f.Strikes calls)
    (hp : calls <+: calls') : f.Strikes calls' := by
  obtain ⟨hpos, hle⟩ := h
  have hcount : calls.count f.call ≤ calls'.count f.call := hp.sublist.count_le _
  exact ⟨hpos, by omega⟩

/-- Two outcomes are the same, or each of them has come upon the call that goes wrong. -/
def Conditions.Agree (c : Conditions) (u v : Except Failure α × Scene) : Prop :=
  u = v ∨ ∀ f ∈ c.fault, f.Strikes u.2.calls ∧ f.Strikes v.2.calls

/-! ## Operations that are not warned -/

namespace Op

/-- The operation notes its calls in their order, and it does the same with a fault and
    without it until it comes upon the call that goes wrong. -/
structure Unwarned (op : Op α) : Prop where
  calls : ∀ (c : Conditions) (s : Scene), s.calls <+: (op.outcome c s).2.calls
  agrees : ∀ (c : Conditions) (s : Scene), c.Agree (op.outcome c s) (op.outcome c.faultless s)

namespace Unwarned

variable {x : Op α} {f : α → Op β}

theorem pure (a : α) : (pure a : Op α).Unwarned := ⟨fun _ _ => List.prefix_rfl, fun _ _ => .inl rfl⟩

theorem throw (e : Failure) : (throw e : Op α).Unwarned :=
  ⟨fun _ _ => List.prefix_rfl, fun _ _ => .inl rfl⟩

theorem get : (get : Op Scene).Unwarned := ⟨fun _ _ => List.prefix_rfl, fun _ _ => .inl rfl⟩

theorem modify {g : Scene → Scene} (h : ∀ s, (g s).calls = s.calls) :
    (modify g : Op Unit).Unwarned :=
  ⟨fun _ s => show s.calls <+: (g s).calls from h s ▸ List.prefix_rfl, fun _ _ => .inl rfl⟩

/-- What follows an operation, however that ends, goes on from the scene it leaves. -/
theorem andThen {op : Op β} {k : Except Failure α → Op β}
    (hop : ∀ c s, op.outcome c s = (k (x.outcome c s).1).outcome c (x.outcome c s).2)
    (hx : x.Unwarned) (hk : ∀ r, (k r).Unwarned) : op.Unwarned := by
  refine ⟨fun c s => ?_, fun c s => ?_⟩
  · rw [hop]
    exact (hx.calls c s).trans ((hk _).calls c _)
  · rw [hop, hop]
    rcases hx.agrees c s with h | h
    · rw [← h]
      exact (hk _).agrees c _
    · -- from here on the two may part, but both keep the call that went wrong
      refine .inr fun f hf => ?_
      obtain ⟨hwith, hwithout⟩ := h f hf
      exact ⟨hwith.mono ((hk _).calls c _), hwithout.mono ((hk _).calls _ _)⟩

theorem bind (hx : x.Unwarned) (hf : ∀ a, (f a).Unwarned) : (x >>= f).Unwarned := by
  refine andThen (k := fun | .ok a => f a | .error e => MonadExcept.throw e) (fun c s => ?_) hx ?_
  · rw [outcome_bind]
    rcases x.outcome c s with ⟨_ | _, _⟩ <;> rfl
  · rintro (e | a)
    · exact throw e
    · exact hf a

theorem tryCatch {h : Failure → Op α} (hx : x.Unwarned) (hh : ∀ e, (h e).Unwarned) :
    (tryCatch x h).Unwarned := by
  refine andThen (k := fun | .ok a => Pure.pure a | .error e => h e) (fun c s => ?_) hx ?_
  · rw [outcome_tryCatch]
    rcases x.outcome c s with ⟨_ | _, _⟩ <;> rfl
  · rintro (e | a)
    · exact hh e
    · exact pure a

theorem map (g : α → β) (hx : x.Unwarned) : (g <$> x).Unwarned := by
  rw [map_eq_pure_bind]
  exact hx.bind fun _ => pure _

/-- The conditions may be looked at, but for the fault. -/
theorem reading {f : Conditions → Op α} (h : ∀ c, f c.faultless = f c)
    (hf : ∀ c, (f c).Unwarned) : (read >>= f).Unwarned := by
  have hread : ∀ c s, (read >>= f).outcome c s = (f c).outcome c s := fun _ _ => rfl
  refine ⟨fun c s => (hf c).calls c s, fun c s => ?_⟩
  rw [hread, hread, h]
  exact (hf c).agrees c s

theorem reach (call : StoreCall) : (Op.reach call).Unwarned := by
  refine ⟨fun c s => ?_, fun c s => ?_⟩
  · rw [outcome_reach]
    exact List.prefix_append _ _
  · rw [outcome_reach, outcome_reach]
    rcases c with ⟨now, settings, context, _ | f⟩
    · exact .inl rfl
    · by_cases h : f.call = call ∧ f.nth = (s.calls ++ [call]).count call
      · have hstrikes : f.Strikes (s.calls ++ [call]) := by
          obtain ⟨rfl, hn⟩ := h
          rw [Fault.Strikes, hn, List.count_append, List.count_singleton_self]
          omega
        refine .inr fun g hg => ?_
        obtain rfl := Option.some.inj hg
        exact ⟨hstrikes, hstrikes⟩
      · exact .inl (by simp only [if_neg h]; rfl)

theorem report (e : Log.Event) : (Op.report e).Unwarned :=
  reading (fun _ => rfl) fun _ => modify fun _ => rfl

theorem drawing (work : Drawing α) : (Op.drawing work).Unwarned := by
  refine ⟨fun c s => ?_, fun c s => .inl ?_⟩
  · rw [outcome_drawing]
  · rw [outcome_drawing, outcome_drawing]

/-- Of a duplicate key there is a note, which is not warned either. -/
theorem unlessTaken {cause : Cause} {note : Op Unit} (hx : x.Unwarned) (hn : note.Unwarned) :
    (Op.unlessTaken cause note x).Unwarned := by
  refine hx.tryCatch fun e => ?_
  split
  · exact bind (throw e) fun _ => hn.bind fun _ => throw _
  · exact hn.bind fun _ => throw _

end Unwarned

/-- **Plain operations are not warned.** -/
theorem Plain.unwarned {op : Op α} (h : op.Plain) : op.Unwarned := by
  induction h with
  | pure a => exact .pure a
  | throw e => exact .throw e
  | @report e _ => exact .report e
  | reading h _ ih =>
    refine .reading (fun c => ?_) ih
    rw [← h c.faultless, ← h c]
    rfl
  | getting _ _ ih => exact Unwarned.get.bind ih
  | modify h => exact .modify fun s => (h s).1.1
  | reach => exact .reach _
  | sample | choice => exact .drawing _
  | bind _ _ ihx ihf => exact ihx.bind ihf
  | rethrow _ _ _ ihx ihh => exact ihx.tryCatch ihh
  | unlessTaken _ hn _ _ ihf =>
    refine .unlessTaken ((Unwarned.reach _).bind ihf) ?_
    rcases hn with rfl | ⟨e, -, rfl⟩
    · exact .pure _
    · exact .report e

end Op

/-! ## The service -/

namespace Service

open Op

variable {r : Request Argument} {c : Conditions} {s : Scene}

/-- Neither a request to the service nor its deadline is warned of a fault. -/
theorem perform_unwarned : (perform r).Unwarned := perform_plain.unwarned

/-- **What the service refuses has not happened.**  A request that fails leaves the store
    as it was, whatever had been done of it when it failed. -/
theorem perform_restores (hs : s.store.Sound) : (perform r).Ends c s (fun _ _ => True)
    fun _ t => t.store = s.store :=
  perform_of_desk (fun _ _ => rfl) (fun _ => rfl) (fun _ ht => .report fun _ => ht)
    ((Desk.performAny_ends hs).mono (fun _ _ _ => trivial) fun _ _ h => h)

end Service

/-! ## Steps -/

/-- The step without its fault. -/
def Step.faultless (x : Step) : Step := { x with cue := { x.cue with fault := none } }

/-- The action of the step once more: at a time, under a deadline and with draws of its
    own, and with nothing that goes wrong. -/
def Step.again (x : Step) (clock : Moment) (deadline : Option Binary) (draws : List Draw) : Step :=
  { x with cue := { clock := some clock, draws := some draws, deadline } }

namespace Session

open Op

variable {engine : Settings.Engine} {s t : Session} {x : Step} {r : Request Argument}

/-- A step depends on what the session is once the step has arranged it. -/
theorem take_congr (h : t.arranged x.cue = s.arranged x.cue) : t.take x = s.take x := by
  obtain ⟨-, hstore, -, hserving⟩ := Session.mk.inj h
  simp only [take, act, conditions, scene, after, h, hserving, hstore]

/-- A step that ends in a failure leaves the store as it was, if its work does so. -/
theorem next_restores {e : Failure} (h : (x.action.work x.site s.serving).Ends
      (s.conditions x.site.settings.engine x.cue) (s.scene x.cue) (fun _ _ => True)
      fun _ t => t.store = s.store) (he : (s.take x).1 = .error e) :
    (s.next x).store = s.store := by
  rcases take_of_ends h with ⟨_, hr, -⟩ | ⟨_, -, ht⟩
  · rw [hr] at he
    cases he
  · exact ht

/-- A step whose work is not warned is the same without the fault, unless both ways it
    comes upon the call that goes wrong. -/
theorem take_faultless (h : (x.action.work x.site s.serving).Unwarned)
    (hmissed : s.Spared x ∨ ∀ f ∈ x.cue.fault, ¬ f.Strikes (s.take x.faultless).2.1.calls) :
    s.take x = s.take x.faultless := by
  have hagree := h.agrees (s.conditions x.site.settings.engine x.cue) (s.scene x.cue)
  cases hf : x.cue.fault with
  | none =>
    have hsame : x.faultless = x := by
      rw [Step.faultless, ← hf]
    rw [hsame]
  | some f =>
    rcases hagree with hsame | hboth
    · unfold take act
      rw [hsame]
      rfl
    · obtain ⟨hwith, hwithout⟩ := hboth f hf
      rcases hmissed with hmissed | hmissed
      · exact absurd hwith (hmissed f hf)
      · exact absurd hwithout (hmissed f hf)

/-- **All or nothing.**  A request to the service that fails leaves the store as it was,
    whichever call has gone wrong and whichever draw has failed; so the same request, made
    again without the fault and with the draws that are left, goes as if it had not been
    tried before.  A fault in a call that is not reached makes no difference at all. -/
theorem Reachable.all_or_nothing (h : s.Reachable engine) (hx : x.action = .service r) :
    (∀ e, (s.take x).1 = .error e → (s.next x).store = s.store ∧
      ∀ clock deadline, let y := x.again clock deadline (s.next x).draws
        (s.next x).take y = s.take y) ∧
    ((s.Spared x ∨ ∀ f ∈ x.cue.fault, ¬ f.Strikes (s.take x.faultless).2.1.calls) →
      s.take x = s.take x.faultless) := by
  have hwork : x.action.work x.site s.serving = Reply.answer <$> Service.perform r := by
    rw [hx]; rfl
  refine ⟨fun e he => ?_, take_faultless (hwork ▸ Service.perform_unwarned.map _)⟩
  have hstore : (s.next x).store = s.store :=
    next_restores (hwork ▸ ends_map.2 (Service.perform_restores h.sound)) he
  have hserving : (s.next x).serving = s.serving := by
    show (s.serving || x.action.isWeb) = s.serving
    rw [hx]
    exact Bool.or_false _
  refine ⟨hstore, fun clock deadline => take_congr ?_⟩
  simp only [arranged, Step.again, hstore, hserving, Option.getD_some]

/-- The author's team is switched off, which repairs two reviews, but the history cannot
    be written for the `nth` time. -/
def faltering (nth : Int) : Step :=
  { cue := { fault := some ⟨.recordHandover, nth, .stall⟩ }
    action := .service (.deactivateTeam (.text "core")) }

theorem all_or_nothing_opening :
    let s := blank.along opening
    ((s.take (faltering 2)).1.isOk = false ∧ (s.next (faltering 2)).store = s.store ∧
      let y := (faltering 2).again ⟨5⟩ none (s.next (faltering 2)).draws
      (s.next (faltering 2)).take y = s.take y) ∧
    s.take (faltering 3) = s.take (faltering 3).faultless := by
  have hlost : ((blank.along opening).take (faltering 2)).1.isOk = false := by decide +kernel
  obtain ⟨e, he⟩ : ∃ e, ((blank.along opening).take (faltering 2)).1 = .error e := by
    cases h : ((blank.along opening).take (faltering 2)).1 with
    | error e => exact ⟨e, rfl⟩
    | ok =>
      rw [h] at hlost
      cases hlost
  obtain ⟨hstore, hagain⟩ := (reachable_opening.all_or_nothing (x := faltering 2) rfl).1 e he
  have hcount : ((blank.along opening).take (faltering 3)).2.1.calls.count .recordHandover = 2 := by
    decide +kernel
  have hmissed : (blank.along opening).Spared (faltering 3) := by
    rintro f ⟨⟩ ⟨-, hle⟩
    change (3 : Int) ≤ (List.count StoreCall.recordHandover _ : Nat) at hle
    rw [hcount] at hle
    omega
  exact ⟨⟨hlost, hstore, hagain ⟨5⟩ none⟩,
    (reachable_opening.all_or_nothing (x := faltering 3) rfl).2 (.inl hmissed)⟩

end Session

end ReviewRota
