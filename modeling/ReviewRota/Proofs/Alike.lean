/-
  ReviewRota — operations on two scenes.

  Two runs of an operation are compared step by step.  They begin with scenes that are
  alike: the same calls have been made and the same log has been written, and a relation
  holds between what is stored and drawn from on either side.  If every primitive keeps
  the relation and reads the same on both sides, then both runs end in the same way and
  leave scenes that are alike.

  * `Scene.Alike` and `Op.Alike`: scenes that are alike, and two operations that do the
    same to them, with a rule for each primitive and for each way of putting operations
    together;
  * `Passing`: one side is what a function makes of the other; `Op.Past` is an operation
    that does not notice the function: the same comes of it before and after;
  * `Service.perform_alike`: the service is alike where the desk is.
-/
import ReviewRota.Proofs.Picks
import ReviewRota.Service

namespace ReviewRota

variable {α β γ : Type}

/-- A relation between what is stored and drawn from on two sides. -/
abbrev Pairing := Store × Generator → Store × Generator → Prop

/-- The scenes differ in what is stored and drawn from, which stands in the relation. -/
structure Scene.Alike (R : Pairing) (s t : Scene) : Prop where
  paired : R (s.store, s.generator) (t.store, t.generator)
  calls : t.calls = s.calls
  log : t.log = s.log

namespace Op

/-- From scenes that are alike, the operations end in the same way and leave scenes that
    are alike. -/
def Alike (c : Conditions) (R : Pairing) (x y : Op α) : Prop :=
  ∀ s t : Scene, s.Alike R t →
    (y.outcome c t).1 = (x.outcome c s).1 ∧ (x.outcome c s).2.Alike R (y.outcome c t).2

namespace Alike

variable {c : Conditions} {R : Pairing} {x y : Op α} {f g : α → Op β} {call : StoreCall}

/-! ## Primitives -/

theorem pure (a : α) : (pure a : Op α).Alike c R (pure a) := fun _ _ h => ⟨rfl, h⟩

theorem throw (e : Failure) : (throw e : Op α).Alike c R (throw e) := fun _ _ h => ⟨rfl, h⟩

theorem report (e : Log.Event) : (Op.report e).Alike c R (Op.report e) := fun _ _ h =>
  ⟨rfl, h.paired, h.calls, (congrArg (· ++ [(⟨c.context, e⟩ : Log.Entry)]) h.log :)⟩

theorem reading {f g : Conditions → Op α} (h : (f c).Alike c R (g c)) :
    (read >>= f).Alike c R (read >>= g) := h

theorem getting {f g : Scene → Op α} (h : ∀ s t, s.Alike R t → (f s).Alike c R (g t)) :
    (get >>= f).Alike c R (get >>= g) := fun s t hst => h s t hst s t hst

theorem modify {f g : Scene → Scene} (h : ∀ s t, s.Alike R t → (f s).Alike R (g t)) :
    (modify f : Op Unit).Alike c R (modify g) := fun s t hst => ⟨rfl, h s t hst⟩

theorem reach (call : StoreCall) : (Op.reach call).Alike c R (Op.reach call) := by
  intro s t h
  rw [outcome_reach, outcome_reach, h.calls]
  exact ⟨rfl, h.paired, rfl, h.log⟩

/-- The same is drawn from the same draws, and what is left of them keeps the relation. -/
theorem drawing {work : Drawing α}
    (h : ∀ s t g k, R (s, g) (t, k) → k = g ∧ ∀ left, R (s, left) (t, left)) :
    (Op.drawing work).Alike c R (Op.drawing work) := by
  intro s t hst
  obtain ⟨hsame, hleft⟩ := h _ _ _ _ hst.paired
  rw [outcome_drawing, outcome_drawing, hsame]
  exact ⟨rfl, hleft _, hst.calls, hst.log⟩

/-! ## Putting operations together -/

theorem bind (hx : x.Alike c R y) (hf : ∀ a, (f a).Alike c R (g a)) :
    (x >>= f).Alike c R (y >>= g) := by
  intro s t h
  have hsame := hx s t h
  rw [outcome_bind, outcome_bind]
  revert hsame
  rcases x.outcome c s with ⟨r, u⟩
  rcases y.outcome c t with ⟨r', u'⟩
  rintro ⟨hr, hu⟩
  obtain rfl : r' = r := hr
  cases r' with
  | ok a => exact hf a u u' hu
  | error e => exact ⟨rfl, hu⟩

theorem tryCatch {h k : Failure → Op α} (hx : x.Alike c R y) (hh : ∀ e, (h e).Alike c R (k e)) :
    (tryCatch x h).Alike c R (tryCatch y k) := by
  intro s t hst
  have hsame := hx s t hst
  rw [outcome_tryCatch, outcome_tryCatch]
  revert hsame
  rcases x.outcome c s with ⟨r, u⟩
  rcases y.outcome c t with ⟨r', u'⟩
  rintro ⟨hr, hu⟩
  obtain rfl : r' = r := hr
  cases r' with
  | ok a => exact ⟨rfl, hu⟩
  | error e => exact hh e u u' hu

theorem map (k : α → β) (hx : x.Alike c R y) : (k <$> x).Alike c R (k <$> y) := by
  rw [map_eq_pure_bind, map_eq_pure_bind]
  exact hx.bind fun _ => .pure _

/-- What is made of a result before the operations go on. -/
theorem carried {r : Except Failure β} {k : β → γ} {f : β → Op α} {g : γ → Op α}
    (h : ∀ b, (f b).Alike c R (g (k b))) :
    (MonadExcept.ofExcept r >>= f).Alike c R (MonadExcept.ofExcept (r.map k) >>= g) := by
  cases r with
  | ok b => exact h b
  | error e => exact .throw e

theorem unlessTaken {cause : Cause} {note : Op Unit} (hn : note.Alike c R note)
    (hx : x.Alike c R y) :
    (Op.unlessTaken cause note x).Alike c R (Op.unlessTaken cause note y) := by
  refine hx.tryCatch fun e => ?_
  split
  · exact bind (throw e) fun _ => hn.bind fun _ => throw _
  · exact hn.bind fun _ => throw _

/-- What has been undone on both sides was alike before. -/
theorem unitOfWork (hx : x.Alike c R y)
    (hback : ∀ s t u v : Scene, s.Alike R t → u.Alike R v →
      R (s.store, u.generator) (t.store, v.generator)) :
    (Op.unitOfWork x).Alike c R (Op.unitOfWork y) := by
  refine (reach .openSession).bind fun _ => getting fun s t hst => hx.tryCatch fun e => ?_
  refine bind (modify fun u v huv => ?_) fun _ => throw e
  exact ⟨hback s t u v hst huv, huv.calls, huv.log⟩

theorem forM {f : β → Op Unit} {l : List β} (h : ∀ b, (f b).Alike c R (f b)) :
    (l.forM f).Alike c R (l.forM f) := by
  induction l with
  | nil => exact .pure _
  | cons b l ih => exact (h b).bind fun _ => ih

/-- A read that finds the same on both sides, and what is made of what it can find. -/
theorem finding {k : Store → α} (h : ∀ s t d d', R (s, d) (t, d') → k t = k s)
    (hf : ∀ s, (f (k s)).Alike c R (g (k s))) :
    (Op.query call k >>= f).Alike c R (Op.query call k >>= g) := by
  simp only [Op.query, bind_assoc, pure_bind]
  refine (reach call).bind fun _ => getting fun s t hst => ?_
  rw [h _ _ _ _ hst.paired]
  exact hf s.store

theorem query {k : Store → α} (h : ∀ s t d d', R (s, d) (t, d') → k t = k s) :
    (Op.query call k).Alike c R (Op.query call k) := by
  rw [← bind_pure (Op.query call k)]
  exact finding h fun _ => .pure _

end Alike

end Op

/-! ## The service -/

/-- The service is alike where the desk is. -/
theorem Service.perform_alike {c : Conditions} {R : Pairing} {r : Request Argument}
    (h : (Desk.performAny r).Alike c R (Desk.performAny r)) :
    (Service.perform r).Alike c R (Service.perform r) := by
  cases ho : r.objection? with
  | some e =>
    rw [perform_refused ho]
    exact .throw _
  | none =>
    rw [perform_passed ho]
    refine .tryCatch (.reading ?_) fun e => ?_
    · split
      · exact h
      · exact .throw _
    · dsimp only
      split
      · exact .reading (.bind (.report _) fun _ => .throw e)
      · exact .throw e

/-! ## Operations that do not notice -/

/-- One side is what a function makes of the other, and both draw from the same. -/
def Passing (g : Store → Store) : Pairing := fun a b => b = (g a.1, a.2)

/-- What comes of the operation after the function is what the function makes of what
    comes of the operation before it. -/
def Op.Past (g : Store → Store) (op : Op α) : Prop := ∀ c, op.Alike c (Passing g) op

namespace Op.Past

variable {g : Store → Store} {x : Op α} {f : α → Op β} {call : StoreCall}

/-- Nothing notices that the store stays as it is. -/
theorem same : x.Past fun s => s := by
  rintro c ⟨store, generator, calls, log⟩ ⟨store', generator', calls', log'⟩ h
  obtain ⟨hpair, rfl, rfl⟩ := h
  obtain ⟨rfl, rfl⟩ := Prod.mk.inj hpair
  exact ⟨rfl, rfl, rfl, rfl⟩

theorem pure (a : α) : (pure a : Op α).Past g := fun _ => .pure a

theorem throw (e : Failure) : (throw e : Op α).Past g := fun _ => .throw e

theorem refuse (cause : Cause) : (refuse cause : Op α).Past g := throw _

theorem report (e : Log.Event) : (Op.report e).Past g := fun _ => .report e

theorem bind (hx : x.Past g) (hf : ∀ a, (f a).Past g) : (x >>= f).Past g := fun c =>
  (hx c).bind fun a => hf a c

theorem map (k : α → β) (hx : x.Past g) : (k <$> x).Past g := fun c => (hx c).map k

theorem reading {f : Conditions → Op α} (h : ∀ c, (f c).Past g) : (read >>= f).Past g := fun c =>
  .reading (h c c)

theorem forM {f : β → Op Unit} {l : List β} (h : ∀ b, (f b).Past g) : (l.forM f).Past g := fun c =>
  .forM fun b => h b c

theorem unlessTaken {cause : Cause} {note : Op Unit} (hn : note.Past g) (hx : x.Past g) :
    (Op.unlessTaken cause note x).Past g := fun c => (hn c).unlessTaken (hx c)

theorem drawing {work : Drawing α} : (Op.drawing work).Past g := by
  refine fun _ => .drawing fun s t d k h => ?_
  obtain ⟨-, rfl⟩ := Prod.mk.inj h
  exact ⟨rfl, fun _ => congrArg (·, _) (congrArg Prod.fst h :)⟩

theorem unitOfWork (hx : x.Past g) : (Op.unitOfWork x).Past g := by
  refine fun c => (hx c).unitOfWork fun s t u v hst huv => ?_
  exact Prod.ext (congrArg Prod.fst hst.paired :) (congrArg Prod.snd huv.paired :)

/-- A read that the function makes no difference to, and what is made of it. -/
theorem finding {k : Store → α} (h : ∀ s, k (g s) = k s) (hf : ∀ s, (f (k s)).Past g) :
    (Op.query call k >>= f).Past g := by
  refine fun c => .finding (fun s t d d' hst => ?_) fun s => hf s c
  obtain ⟨rfl, -⟩ := Prod.mk.inj hst
  exact h s

theorem query {k : Store → α} (h : ∀ s, k (g s) = k s) : (Op.query call k).Past g := by
  rw [← bind_pure (Op.query call k)]
  exact finding h fun _ => pure _

/-- A change of the store that goes together with the function. -/
theorem change (k : Store → Store) (h : ∀ s, k (g s) = g (k s)) :
    (modify fun s => { s with store := k s.store } : Op Unit).Past g := by
  refine fun _ => .modify fun s t hst => ⟨?_, hst.calls, hst.log⟩
  obtain ⟨hstore, hdraws⟩ := Prod.mk.inj hst.paired
  refine Prod.ext ?_ hdraws
  show k t.store = g (k s.store)
  rw [hstore, h]

theorem write {k : Store → Moment → Store} (h : ∀ s now, k (g s) now = g (k s now)) :
    (Op.write call k).Past g :=
  bind (fun _ => .reach call) fun _ => reading fun c =>
    change (fun s => k s c.now) fun s => h s c.now

/-- What is stored on the one side is what the function makes of what is stored on the
    other. -/
theorem put {c : Conditions} {store : Store} :
    (modify fun s => { s with store } : Op Unit).Alike c (Passing g)
      (modify fun s => { s with store := g store }) :=
  .modify fun _ _ hst => ⟨Prod.ext rfl (congrArg Prod.snd hst.paired :), hst.calls, hst.log⟩

/-- A change that the store may refuse, and refuses on both sides. -/
theorem attempt {k : Store → Moment → Except Failure Store}
    (h : ∀ s now, k (g s) now = (k s now).map g) : (Op.attempt call k).Past g := by
  refine bind (fun _ => .reach call) fun _ => reading fun c c' => .getting fun s t hst => ?_
  obtain ⟨hstore, -⟩ := Prod.mk.inj hst.paired
  dsimp only at hstore
  rw [hstore, h]
  exact .carried fun store => put

end Op.Past

end ReviewRota
