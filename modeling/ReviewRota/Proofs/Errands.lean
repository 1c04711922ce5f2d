/-
  ReviewRota — the ways to the desk.

  The service, the web application and the command line stand in front of the
  desk.  Whatever is asked of them, they make at most one call to it, with the request
  that they were asked, and what that call leaves is what they leave.

  * `Served`: what one call to the desk makes of the store, or nothing was done;
    `Served.deed` and `Served.effect` say what that can be;
  * `Op.Serves`: an operation that does no more than that, with a rule for each way
    of putting something around a call;
  * `Http.Incoming.request?`, `Command.requestOf?` and `Action.request?`: the request
    that is made of what comes in;
  * `Service.perform_serves` to `Command.run_serves`: the layers one by one;
  * `Action.work_serves`: all that a step does, except calls to the store itself.
-/
import ReviewRota.Proofs.Effects
import ReviewRota.Session

namespace ReviewRota

variable {α β : Type} {c : Conditions} {s : Scene} {t : Store} {context : Log.Context}
  {log : List Log.Entry} {asked : Option (Request Argument)}

/-! ## One call -/

/-- The store as it was, or as one call to the desk leaves it: the request that was
    asked, or a transition.  What is bound to the log, and what is in it, makes no
    difference to a call. -/
inductive Served (asked : Option (Request Argument)) (c : Conditions) (s : Scene) : Store → Prop
  | idle : Served asked c s s.store
  | request {context log r a t} : asked = some r →
      (Desk.performAny r).outcome { c with context } { s with log } = (.ok a, t) →
      Served asked c s t.store
  | move {context log pull target v t} : (Desk.moveAny pull target).outcome { c with context }
      { s with log } = (.ok v, t) → Served asked c s t.store

/-- The desk has opened a pull request and has answered with this view of it. -/
def Created (c : Conditions) (s : Scene) (view : PullView) (t : Store) : Prop :=
  ∃ context log u, (Desk.performAny (.openPull (.text view.id) (.text view.title)
    (.text view.author))).outcome { c with context } { s with log } = (.ok (.pull view), u) ∧
    u.store = t

theorem Served.of_store_eq (h : t = s.store) : Served asked c s t := h ▸ .idle

theorem Served.relogged (h : Served asked { c with context } { s with log } t) :
    Served asked c s t := by
  cases h with
  | idle => exact .idle
  | request hr h => exact .request hr h
  | move h => exact .move h

/-- **What one call does to the store**: nothing, a merge, or what was asked. -/
theorem Served.deed (h : Served asked c s t) (hs : s.store.Sound) : t = s.store ∨
    (∃ id, Desk.Merged c.now s.store id t) ∨ ∃ r ∈ asked, ∃ r' a, r.complete? = some r' ∧
      Desk.Deed c.settings.maxReviewers c.now s.store r' a t := by
  cases h with
  | idle => exact .inl rfl
  | @request context log r a t hr h =>
    rcases (Desk.performAny_ends (c := { c with context }) (s := { s with log }) hs).ok h with
      h | ⟨r', hc, h⟩
    · exact .inl h
    · exact .inr (.inr ⟨r, hr, r', a, hc, h⟩)
  | @move context log _ _ _ _ h =>
    rcases (Desk.moveAny_ends (c := { c with context }) (s := { s with log })).ok h with
      h | ⟨id, -, h⟩
    · exact .inl h
    · exact .inr (.inl ⟨id, h⟩)

/-- One call makes some edits, or it opens a pull request. -/
theorem Served.effect (h : Served asked c s t) (hs : s.store.Sound) :
    Store.Edits c.now s.store t ∨
    ∃ view, Store.Opening c.settings.maxReviewers c.now s.store view t ∧ Created c s view t := by
  cases h with
  | idle => exact .inl .refl
  | @request context log r a t _ h =>
    rcases (Desk.performAny_ends (c := { c with context }) (s := { s with log }) hs).ok h with
      ht | ⟨r', hc, hd⟩
    · exact .inl (ht ▸ .refl)
    · rcases hd.effect hs with he | ⟨view, rfl, rfl, ho⟩
      · exact .inl he
      · obtain rfl := Desk.complete?_eq_openPull hc
        exact .inr ⟨view, ho, context, log, t, h, rfl⟩
  | @move context log _ _ _ _ h =>
    rcases (Desk.moveAny_ends (c := { c with context }) (s := { s with log })).ok h with
      ht | ⟨_, -, hm⟩
    · exact .inl (ht ▸ .refl)
    · exact .inl hm.edits

/-! ## Around a call -/

/-- The operation makes at most one call to the desk, with the request that was asked,
    and leaves the store as that call does, however it ends. -/
def Op.Serves (op : Op α) (asked : Option (Request Argument)) : Prop :=
  ∀ c s, s.store.Sound → op.Ends c s (fun _ t => Served asked c s t.store)
    fun _ t => Served asked c s t.store

namespace Op

variable {x : Op α} {f : α → Op β}

theorem Reads.serves (h : x.Reads) : x.Serves asked := fun c s _ =>
  (h c s).mono (fun _ _ => .of_store_eq) fun _ _ => .of_store_eq

theorem Serves.bind (hx : x.Serves asked) (hf : ∀ a, (f a).Reads) : (x >>= f).Serves asked := by
  intro c s hs
  refine ends_bind.2 ((hx c s hs).mono (fun a t ht => ?_) fun _ _ h => h)
  exact (hf a c t).mono (fun _ _ h => h ▸ ht) fun _ _ h => h ▸ ht

theorem Serves.map (g : α → β) (hx : x.Serves asked) : (g <$> x).Serves asked := fun c s hs =>
  ends_map.2 (hx c s hs)

theorem Serves.tryCatch {h : Failure → Op α} (hx : x.Serves asked) (hh : ∀ e, (h e).Reads) :
    (tryCatch x h).Serves asked := by
  intro c s hs
  refine ends_tryCatch.2 ((hx c s hs).mono (fun _ _ h => h) fun e t ht => ?_)
  exact (hh e c t).mono (fun _ _ h => h ▸ ht) fun _ _ h => h ▸ ht

/-- What is bound to the log around a call makes no difference. -/
theorem Serves.bound {g : Log.Context → Log.Context} (hx : x.Serves asked) :
    (withReader (fun c => { c with context := g c.context }) x : Op α).Serves asked := by
  intro c s hs
  have hends := hx { c with context := g c.context } s hs
  exact ends_withReader.2 (hends.mono (fun _ _ h => h.relogged) fun _ _ h => h.relogged)

/-- A report before a call makes no difference. -/
theorem Serves.reported {e : Log.Event} {f : Unit → Op α} (hx : (f ()).Serves asked) :
    (report e >>= f).Serves asked := by
  intro c s hs
  refine .bind (.report fun log => ?_)
  have hends := hx c { s with log } hs
  exact hends.mono (fun _ _ h => h.relogged) fun _ _ h => h.relogged

end Op

open Op

theorem Desk.performAny_serves {r : Request Argument} : (performAny r).Serves (some r) := by
  intro c s hs
  rw [ends_iff]
  constructor
  · intro a t h
    exact .request rfl h
  · intro e t h
    exact .of_store_eq ((performAny_ends hs).error h)

theorem Desk.moveAny_serves {pull : Argument} {target : Status} :
    (moveAny pull target).Serves asked := by
  intro c s hs
  rw [ends_iff]
  constructor
  · intro v t h
    exact .move h
  · intro e t h
    exact .of_store_eq (moveAny_ends.error h)

/-! ## The service -/

theorem Service.withDeadline_serves {operation : String} {work : Op α} (h : work.Serves asked) :
    (withDeadline operation work).Serves asked := by
  refine .tryCatch (fun c s hs => .bind (ends_read.2 ?_)) fun e => ?_
  · split
    · exact h c s hs
    · exact .idle
  · dsimp only
    split
    · exact .bind .read fun _ => .bind (.report _) fun _ => .throw _
    · exact .throw _

theorem Service.perform_serves {r : Request Argument} : (perform r).Serves (some r) := by
  cases h : r.objection? with
  | some e =>
    rw [perform_refused h]
    exact (Reads.throw _).serves
  | none =>
    rw [perform_passed h]
    exact withDeadline_serves Desk.performAny_serves

/-! ## The web application -/

namespace Http

variable {origins : List String}

theorem responseTo_reads {path : String} {e : Failure} : (responseTo path e).Reads := by
  unfold responseTo
  split
  next r =>
    unfold refusal
    dsimp only
    split <;> exact .bind (.report _) fun _ => .pure _
  next f =>
    unfold storeTrouble
    split <;> exact .bind (.report _) fun _ => .pure _
  next => exact .bind (.report _) fun _ => .pure _
  next => exact .throw _

theorem readiness_serves : readiness.Serves asked := by
  refine (Reads.serves ?_).tryCatch fun e => ?_
  · exact .bind (.reach _) fun _ => .bind (.report _) fun _ => .pure _
  · split
    · exact .bind (.report _) fun _ => .pure _
    · exact .throw _

theorem callService_serves {path : String} {call : Call} :
    (callService path call).Serves (some call.request) := by
  unfold callService binding
  refine Serves.bound (g := fun b => call.bound.foldl (fun t f => t.bind f.1 f.2) b) ?_
  exact .tryCatch (Service.perform_serves.bind fun _ => .pure _) fun _ => responseTo_reads

/-- The request that a route makes of what comes in. -/
def Route.request? (route : Route) (r : Incoming) : Option (Request Argument) :=
  match route.call? r with
  | some (_, .value c) => some c.request
  | _ => none

/-- The request that the web application makes of what comes in. -/
def Incoming.request? (origins : List String) (r : Incoming) : Option (Request Argument) :=
  match Cors.preflight? origins r, resolve r.method r.target.path with
  | none, .taken route => route.request? r
  | _, _ => none

theorem endpoint_serves {path : String} {route : Route} {r : Incoming} :
    (endpoint path route r).Serves (route.request? r) := by
  unfold endpoint Route.request?
  split
  next =>
    split
    · exact readiness_serves.tryCatch fun _ => responseTo_reads
    · exact (Reads.pure _).serves
  next => exact (Reads.pure _).serves
  next h => rw [h]; exact callService_serves
  next => exact .reported (Reads.pure _).serves

theorem dispatch_serves {r : Incoming} (h : Cors.preflight? origins r = none) :
    (dispatch r).Serves (r.request? origins) := by
  unfold dispatch Incoming.request?
  rw [h]
  cases resolve r.method r.target.path with
  | taken => exact endpoint_serves
  | wrongMethod | elsewhere | unknown => exact (Reads.pure _).serves

theorem answer_serves {r : Incoming} : (answer origins r).Serves (r.request? origins) := by
  unfold answer
  split
  next => exact (Reads.pure _).serves
  next h _ => exact (dispatch_serves h).bind fun _ => .pure _
  next h _ => exact dispatch_serves h

theorem serve_serves {fresh : String} {r : Incoming} :
    (serve origins fresh r).Serves (r.request? origins) := by
  refine Serves.bound (g := fun _ => ⟨some (correlation fresh r), []⟩) (.tryCatch ?_ fun _ => ?_)
  · exact answer_serves.bind fun _ => .bind (.report _) fun _ => .pure _
  · exact .bind (.report _) fun _ => .pure _

theorem visit_serves {site : Site} {serving : Bool} {r : Incoming} :
    (visit site serving r).Serves (r.request? site.settings.web.corsOrigins) := by
  cases serving with
  | true => exact serve_serves
  | false => exact .reported serve_serves

end Http

/-! ## The command line -/

namespace Command

/-- The request that a command line makes, if it is one. -/
def requestOf? (w : World) (args : List String) : Option (Request Argument) := do
  let i ← (Invocation.read? w.files args).toOption
  let s ← (settings w i).toOption
  (Address.pool s.database.url).toOption
  (← i.command.toOption).request?

theorem performRequest_serves {k : Console.Tagging} {opening : List Console.Block} {cmd : Command}
    {r : Request Argument} : (performRequest k opening cmd r).Serves (some r) := by
  refine .tryCatch (Service.perform_serves.bind fun _ => .pure _) fun e => ?_
  split <;> exact .pure _

theorem performServe_reads {k : Console.Tagging} {opening : List Console.Block}
    {settings : Settings} {host : Option String} {port : Option Int} :
    (performServe k opening settings host port).Reads := by
  unfold performServe
  dsimp only
  split
  · exact .bind (.report _) fun _ => .pure _
  · exact .pure _

theorem perform_serves {k : Console.Tagging} {opening : List Console.Block} {settings : Settings}
    {cmd : Command} : (perform k opening settings cmd).Serves cmd.request? := by
  unfold perform
  split
  · exact performServe_reads.serves
  · exact .reported (Reads.pure _).serves
  next h => exact h ▸ performRequest_serves
  · exact (Reads.pure _).serves

theorem run_serves {w : World} {args : List String} : (run w args).Serves (requestOf? w args) := by
  unfold run runWith
  split
  next => exact (Reads.pure _).serves
  next i hi =>
  split
  next => exact (Reads.pure _).serves
  next s hs =>
  split
  next => exact (Reads.pure _).serves
  next hpool =>
  split
  next => exact (Reads.pure _).serves
  next cmd hcmd =>
  have hask : requestOf? w args = cmd.request? := by
    simp [requestOf?, hi, hs, hpool, hcmd, Except.toOption]
  exact hask ▸ perform_serves.bind fun _ => .pure _

end Command

/-! ## Steps -/

/-- The action is a call to the store itself, past the desk. -/
def Action.isAccess : Action → Bool
  | access _ => true
  | _ => false

/-- The request that an action makes, if it makes one. -/
def Action.request? (site : Site) : Action → Option (Request Argument)
  | service r | desk r => some r
  | web r => r.request? site.settings.web.corsOrigins
  | command args => Command.requestOf? site.world args
  | wait | moveTo .. | access _ => none

/-- **What a step does to the store is done by the desk**, in one call if any. -/
theorem Action.work_serves {site : Site} {serving : Bool} {a : Action} (h : a.isAccess = false) :
    (a.work site serving).Serves (a.request? site) := by
  cases a with
  | wait => exact (Reads.pure _).serves
  | service => exact Service.perform_serves.map _
  | desk => exact Desk.performAny_serves.map _
  | moveTo => exact Desk.moveAny_serves.map _
  | web => exact Http.visit_serves.map _
  | command => exact Command.run_serves.map _
  | access => cases h

end ReviewRota
