/-
  ReviewRota — what the web application answers.

  A request from outside that is read as a call of the service does to the store what the
  service does for that call, takes the same draws and makes the same calls to the store;
  and the answer conveys what the service yields, in the form of the call or as the
  response to a failure.  The log around it makes no difference to either.

  * `Op.Unlogged`: an operation that does the same whatever is bound to the log and
    whatever is in it, and `Plain.unlogged`: plain operations are of this kind;
  * `Http.replyTo` and `Call.reply`: what is answered to a failure, and to what the service
    yields; `Response.Like`: the same but for the headers;
  * `Incoming.call?`: the call that is read from what comes in;
  * `Op.Conveys`: an operation that does what the service does for a call and answers so;
    `callService_conveys` to `visit_conveys`: the layers one by one;
  * `Http.Idles`: an operation that calls nothing, layer by layer;
  * `Session.take_web` and `take_web_of_ends`: a step with a request from outside, beside
    one with the call and by what the service does, and `Session.take_idle`: one with a
    request that calls nothing.
-/
import ReviewRota.Proofs.Plain
import ReviewRota.Proofs.Runs

namespace ReviewRota

variable {α β : Type}

/-! ## The log makes no difference -/

theorem Scene.eq_of_unlogged {s t : Scene} (h : s.unlogged = t.unlogged) :
    s.store = t.store ∧ s.generator = t.generator ∧ s.calls = t.calls := by
  obtain ⟨hstore, hgenerator, hcalls, -⟩ := Scene.mk.inj h
  exact ⟨hstore, hgenerator, hcalls⟩

namespace Op

/-- The operation does the same whatever is bound to the log and whatever is in it. -/
def Unlogged (op : Op α) : Prop :=
  ∀ (c d : Conditions) (s t : Scene), c.unlogged = d.unlogged → s.unlogged = t.unlogged →
    (op.outcome c s).1 = (op.outcome d t).1 ∧
      (op.outcome c s).2.unlogged = (op.outcome d t).2.unlogged

namespace Unlogged

variable {x : Op α} {f : α → Op β}

theorem pure (a : α) : (pure a : Op α).Unlogged := fun _ _ _ _ _ hs => ⟨rfl, hs⟩

theorem throw (e : Failure) : (throw e : Op α).Unlogged := fun _ _ _ _ _ hs => ⟨rfl, hs⟩

theorem report (e : Log.Event) : (Op.report e).Unlogged := fun _ _ _ _ _ hs => ⟨rfl, hs⟩

theorem reading {f : Conditions → Op α} (h : ∀ c, f c.faultless.unlogged = f c)
    (hf : ∀ c, (f c).Unlogged) : (read >>= f).Unlogged := by
  intro c d s t hc hs
  have hsame : f c = f d := by
    rw [← h c, ← h d, show c.faultless.unlogged = d.faultless.unlogged from
      congrArg Conditions.faultless hc]
  have hread : ∀ c s, (read >>= f).outcome c s = (f c).outcome c s := fun _ _ => rfl
  rw [hread, hread, hsame]
  exact hf d c d s t hc hs

theorem getting {f : Scene → Op α} (h : ∀ s, f s.unlogged = f s) (hf : ∀ s, (f s).Unlogged) :
    (get >>= f).Unlogged := by
  intro c d s t hc hs
  have hsame : f s = f t := by rw [← h s, ← h t, hs]
  have hget : ∀ c s, (get >>= f).outcome c s = (f s).outcome c s := fun _ _ => rfl
  rw [hget, hget, hsame]
  exact hf t c d s t hc hs

theorem modify {g : Scene → Scene} (h : ∀ s, g s.unlogged = (g s).unlogged) :
    (modify g : Op Unit).Unlogged := by
  intro c d s t _ hs
  refine ⟨rfl, ?_⟩
  show (g s).unlogged = (g t).unlogged
  rw [← h s, ← h t, hs]

theorem reach (call : StoreCall) : (Op.reach call).Unlogged := by
  intro c d s t hc hs
  have hfault : c.fault = d.fault := (congrArg Conditions.fault hc :)
  obtain ⟨-, -, hcalls⟩ := Scene.eq_of_unlogged hs
  rw [outcome_reach, outcome_reach, hfault, hcalls]
  exact ⟨rfl, congrArg (fun u : Scene => { u with calls := t.calls ++ [call] }) hs⟩

theorem drawing (work : Drawing α) : (Op.drawing work).Unlogged := by
  intro c d s t _ hs
  obtain ⟨-, hgenerator, -⟩ := Scene.eq_of_unlogged hs
  rw [outcome_drawing, outcome_drawing, hgenerator]
  exact ⟨rfl, congrArg
    (fun u : Scene => { u with generator := (work.run.run t.generator).2 }) hs⟩

theorem bind (hx : x.Unlogged) (hf : ∀ a, (f a).Unlogged) : (x >>= f).Unlogged := by
  intro c d s t hc hs
  have hsame := hx c d s t hc hs
  rw [outcome_bind, outcome_bind]
  revert hsame
  rcases x.outcome c s with ⟨r, u⟩
  rcases x.outcome d t with ⟨r', u'⟩
  rintro ⟨hr, hu⟩
  obtain rfl : r = r' := hr
  cases r with
  | ok a => exact hf a c d u u' hc hu
  | error e => exact ⟨rfl, hu⟩

theorem tryCatch {h : Failure → Op α} (hx : x.Unlogged) (hh : ∀ e, (h e).Unlogged) :
    (tryCatch x h).Unlogged := by
  intro c d s t hc hs
  have hsame := hx c d s t hc hs
  rw [outcome_tryCatch, outcome_tryCatch]
  revert hsame
  rcases x.outcome c s with ⟨r, u⟩
  rcases x.outcome d t with ⟨r', u'⟩
  rintro ⟨hr, hu⟩
  obtain rfl : r = r' := hr
  cases r with
  | ok a => exact ⟨rfl, hu⟩
  | error e => exact hh e c d u u' hc hu

theorem unlessTaken {cause : Cause} {note : Op Unit} (hx : x.Unlogged) (hn : note.Unlogged) :
    (Op.unlessTaken cause note x).Unlogged := by
  refine hx.tryCatch fun e => ?_
  split
  · exact bind (throw e) fun _ => hn.bind fun _ => throw _
  · exact hn.bind fun _ => throw _

end Unlogged

/-- **To plain operations the log makes no difference.** -/
theorem Plain.unlogged {op : Op α} (h : op.Plain) : op.Unlogged := by
  induction h with
  | pure a => exact .pure a
  | throw e => exact .throw e
  | @report e _ => exact .report e
  | reading h _ ih => exact .reading h ih
  | getting h _ ih => exact .getting h ih
  | modify h => exact .modify fun s => (h s).2.1
  | reach => exact .reach _
  | sample | choice => exact .drawing _
  | bind _ _ ihx ihf => exact ihx.bind ihf
  | rethrow _ _ _ ihx ihh => exact ihx.tryCatch ihh
  | unlessTaken _ hn _ _ ihf =>
    refine .unlessTaken ((Unlogged.reach _).bind ihf) ?_
    rcases hn with rfl | ⟨e, -, rfl⟩
    · exact .pure _
    · exact .report e

end Op

/-! ## What is conveyed -/

namespace Http

/-- What is answered to a failure. -/
def replyTo : Failure → Response
  | .refused r => .error (statusOf r.cause) r.cause.code
    (if statusOf r.cause = 404 then "resource not found" else r.message)
  | .store f => if f.isTransient then .error 503 "UNAVAILABLE" "store unavailable"
    else .error 500 Cause.internal.code Cause.internal.wording
  | .timeout => .error 504 "DEADLINE_EXCEEDED" "deadline exceeded"
  | _ => serverError

/-- What is answered to a call of which the service yields so. -/
def Call.reply (call : Call) : Except Failure Answer → Response
  | .ok a => .json call.status (call.document a)
  | .error e => replyTo e

/-- The responses are the same but for their headers. -/
structure Response.Like (a b : Response) : Prop where
  status : a.status = b.status
  content : a.content = b.content

theorem Response.adding_like {a : Response} {headers : List (String × String)} :
    (a.adding headers).Like a := ⟨rfl, rfl⟩

theorem Response.Like.trans {a b c : Response} (h : a.Like b) (h' : b.Like c) : a.Like c :=
  ⟨h.status.trans h'.status, h.content.trans h'.content⟩

/-- The call that is read for a route from what comes in. -/
def Route.read? (route : Route) (r : Incoming) : Option Call :=
  match route.call? r with
  | some (_, .value c) => some c
  | _ => none

/-- The call of the service that is read from what comes in. -/
def Incoming.call? (origins : List String) (r : Incoming) : Option Call :=
  match Cors.preflight? origins r, resolve r.method r.target.path with
  | none, .taken route => route.read? r
  | _, _ => none

end Http

namespace Op

open Http

/-- The operation does what the service does for a call, and answers what it yields; what
    has no answer of its own fails, to be answered as a server error. -/
def Conveys (op : Op Response) (call : Call) : Prop :=
  ∀ c s, op.Ends c s
    (fun a t => t.unlogged = ((Service.perform call.request).outcome c s).2.unlogged ∧
      a.Like (call.reply ((Service.perform call.request).outcome c s).1))
    fun _ t => t.unlogged = ((Service.perform call.request).outcome c s).2.unlogged ∧
      serverError.Like (call.reply ((Service.perform call.request).outcome c s).1)

namespace Conveys

variable {x : Op Response} {call : Call}

/-- What is added to an answer makes no difference. -/
theorem bind {f : Response → Op Response} (hx : x.Conveys call)
    (hf : ∀ a c s, (f a).Ends c s (fun a' t => t.unlogged = s.unlogged ∧ a'.Like a)
      fun _ _ => False) : (x >>= f).Conveys call := by
  intro c s
  refine ends_bind.2 ((hx c s).mono (fun a t ht => ?_) fun _ _ h => h)
  refine (hf a c t).mono (fun a' u hu => ?_) fun _ _ => False.elim
  exact ⟨hu.1.trans ht.1, hu.2.trans ht.2⟩

/-- What is bound to the log makes no difference. -/
theorem bound {g : Conditions → Conditions} (hg : ∀ c, (g c).unlogged = c.unlogged)
    (hx : x.Conveys call) : (withReader g x : Op Response).Conveys call := by
  intro c s
  obtain ⟨hsame, hleft⟩ := Service.perform_plain.unlogged (g c) c s s (hg c) rfl
  refine ends_withReader.2 ?_
  rw [← hsame, ← hleft]
  exact hx (g c) s

end Conveys

end Op

namespace Http

open Op

variable {c : Conditions} {s : Scene} {origins : List String} {path : String} {r : Incoming}
  {call : Call}

/-! ## Layers -/

/-- A failure has its answer, or it is passed on to be answered as a server error. -/
theorem responseTo_ends {e : Failure} : (responseTo path e).Ends c s
    (fun a t => t.unlogged = s.unlogged ∧ a.Like (replyTo e))
    fun _ t => t.unlogged = s.unlogged ∧ serverError.Like (replyTo e) := by
  unfold responseTo
  split
  next r =>
    unfold refusal
    dsimp only
    split <;> exact .bind (.report fun _ => ⟨rfl, rfl, rfl⟩)
  next f =>
    unfold storeTrouble
    split
    next h => exact .bind (.report fun _ => ⟨rfl, by rw [replyTo, if_pos h]; exact ⟨rfl, rfl⟩⟩)
    next h => exact .bind (.report fun _ => ⟨rfl, by rw [replyTo, if_neg h]; exact ⟨rfl, rfl⟩⟩)
  next => exact .bind (.report fun _ => ⟨rfl, rfl, rfl⟩)
  next h₁ h₂ h₃ =>
    refine ⟨rfl, ?_⟩
    cases e with
    | refused r => exact absurd rfl (h₁ r)
    | store f => exact absurd rfl (h₂ f)
    | timeout => exact absurd rfl h₃
    | _ => exact ⟨rfl, rfl⟩

theorem callService_conveys : (callService path call).Conveys call := by
  refine .bound (fun _ => rfl) fun c s => ends_tryCatch.2 (.bind ?_)
  rw [ends_iff]
  constructor
  · intro a t ho
    rw [ho]
    exact ⟨rfl, rfl, rfl⟩
  · intro e t ho
    rw [ho]
    exact responseTo_ends

/-- A body that cannot be decoded fits no form. -/
theorem call?_undecodable {route : Route} : route.call? r ≠ some (.undecodable, .value call) := by
  have hform : ∀ read : Fields → Reading Call,
      some (readBody r, (readBody r).form read) ≠ some (.undecodable, .value call) := by
    intro read h
    obtain ⟨hbody, hform⟩ := Prod.mk.inj (Option.some.inj h)
    rw [hbody] at hform
    cases hform
  intro h
  cases route with
  | liveness | readiness => cases h
  | addTeam | deactivateTeam | setActive | openPull | mergePull | reassign => exact hform _ h
  | showTeam | reviews | overview | summary | reviewer | pull => cases h

theorem endpoint_conveys {route : Route} (h : route.read? r = some call) :
    (endpoint path route r).Conveys call := by
  unfold Route.read? at h
  unfold endpoint
  split
  next hc => rw [hc] at h; cases h
  next hc =>
    rw [hc] at h
    split at h
    next he => cases he; cases h; exact absurd hc call?_undecodable
    next => cases h
  next hc => rw [hc] at h; cases h; exact callService_conveys
  next hc => rw [hc] at h; cases h

theorem dispatch_conveys (hp : Cors.preflight? origins r = none)
    (h : r.call? origins = some call) : (dispatch r).Conveys call := by
  unfold Incoming.call? at h
  unfold dispatch
  rw [hp] at h
  cases hr : resolve r.method r.target.path with
  | taken route => rw [hr] at h; exact endpoint_conveys h
  | wrongMethod | elsewhere | unknown => rw [hr] at h; cases h

theorem answer_conveys (h : r.call? origins = some call) : (answer origins r).Conveys call := by
  unfold answer
  split
  next hp => rw [Incoming.call?, hp] at h; cases h
  next hp _ => exact (dispatch_conveys hp h).bind fun _ _ _ => ⟨rfl, Response.adding_like⟩
  next hp _ => exact dispatch_conveys hp h

theorem Route.method_ne_head {route : Route} : route.method ≠ "HEAD" := by
  cases route <;> simp [method]

/-- No route takes a request that asks for headers alone. -/
theorem method_ne_head (h : r.call? origins = some call) : r.method ≠ "HEAD" := by
  intro hm
  unfold Incoming.call? at h
  split at h
  next route _ hr =>
    unfold resolve at hr
    split at hr
    next route' _ =>
      split at hr
      next he => exact Route.method_ne_head (he.trans hm)
      next => cases hr
    next => dsimp only at hr; split at hr <;> cases hr
  next => cases h

theorem sentTo_eq {a : Response} (h : r.method ≠ "HEAD") : a.sentTo r.method = a := if_neg h

/-- Whatever has no answer of its own is answered as a server error. -/
theorem serve_ends {fresh : String} (h : r.call? origins = some call) :
    (serve origins fresh r).Ends c s
      (fun a t => t.unlogged = ((Service.perform call.request).outcome c s).2.unlogged ∧
        a.Like (call.reply ((Service.perform call.request).outcome c s).1)) fun _ _ => False := by
  -- the context of a request holds its correlation id, of which the service knows nothing
  let d : Conditions := { c with context := ⟨some (correlation fresh r), []⟩ }
  obtain ⟨hsame, hleft⟩ :=
    (Service.perform_plain : (Service.perform call.request).Plain).unlogged d c s s rfl rfl
  rw [← hsame, ← hleft]
  refine ends_withReader.2 (ends_tryCatch.2 (.bind ?_))
  refine (answer_conveys h d s).mono (fun a t ht => ?_) fun e t ht => ?_
  · refine .bind (.report fun _ => ends_pure.2 ?_)
    rw [sentTo_eq (method_ne_head h)]
    exact ⟨ht.1, Response.adding_like.trans ht.2⟩
  · refine .bind (.report fun _ => ends_pure.2 ?_)
    rw [sentTo_eq (method_ne_head h)]
    exact ht

/-- **The web application conveys what the service yields.** -/
theorem visit_ends {site : Site} {serving : Bool}
    (h : r.call? site.settings.web.corsOrigins = some call) :
    (visit site serving r).Ends c s
      (fun a t => t.unlogged = ((Service.perform call.request).outcome c s).2.unlogged ∧
        a.Like (call.reply ((Service.perform call.request).outcome c s).1)) fun _ _ => False := by
  cases serving with
  | true => exact serve_ends h
  | false =>
    -- the application is set up first, of which there is a report
    refine .bind (.report fun log => ?_)
    obtain ⟨hsame, hleft⟩ := (Service.perform_plain : (Service.perform call.request).Plain).unlogged
      c c { s with log } s rfl rfl
    rw [← hsame, ← hleft]
    exact serve_ends h

/-! ## Requests that call nothing -/

/-- The operation leaves the store alone, and the status of its answer is such, unless a
    call goes wrong. -/
def Idles (P : Nat → Prop) (op : Op Response) : Prop :=
  ∀ c s, op.Ends c s (fun a t => t.store = s.store ∧ (c.fault = none → P a.status))
    fun _ t => t.store = s.store ∧ c.fault ≠ none

theorem idles_pure {P : Nat → Prop} {a : Response} (h : P a.status) : Idles P (pure a) :=
  fun _ _ => ends_pure.2 ⟨rfl, fun _ => h⟩

theorem readiness_idles : Idles (· < 500) readiness := by
  intro c s
  refine ends_tryCatch.2 (.bind (.reach (fun _ => ?_) fun e t hstruck ht => ?_))
  · exact .bind (.report fun _ => ends_pure.2 ⟨rfl, fun _ => by decide⟩)
  · have hfault : c.fault ≠ none := by
      obtain ⟨f, hf, -⟩ := hstruck
      rw [hf]
      exact nofun
    split
    · exact .bind (.report fun _ => ends_pure.2 ⟨ht, fun h => absurd h hfault⟩)
    · exact ends_throw.2 ⟨ht, hfault⟩

theorem endpoint_idles {route : Route} (h : route.read? r = none) :
    Idles (· < 500) (endpoint path route r) := by
  unfold Route.read? at h
  unfold endpoint
  split
  next =>
    split
    next =>
      intro c s
      refine ends_tryCatch.2 ((readiness_idles c s).mono (fun _ _ h => h) fun e t ht => ?_)
      obtain ⟨ht, hfault⟩ := ht
      refine (responseTo_reads c t).mono (fun a u hu => ?_) fun e u hu => ?_
      · exact ⟨hu.trans ht, fun h => absurd h hfault⟩
      · exact ⟨hu.trans ht, hfault⟩
    next => exact idles_pure (by decide : 200 < 500)
  next => exact idles_pure (by decide : 400 < 500)
  next hc => rw [hc] at h; cases h
  next => exact fun _ _ => .bind (.report fun _ => ⟨rfl, fun _ => by decide⟩)

/-- What no route takes is not found, or it is found elsewhere or by another method. -/
theorem dispatch_lost {P : Nat → Prop} (h : ∀ route, resolve r.method r.target.path ≠ .taken route)
    (hwrong : P 405) (helsewhere : P 307) (hunknown : P 404) : Idles P (dispatch r) := by
  unfold dispatch
  cases hr : resolve r.method r.target.path with
  | taken route => exact absurd hr (h route)
  | wrongMethod => exact idles_pure hwrong
  | elsewhere => exact idles_pure helsewhere
  | unknown => exact idles_pure hunknown

theorem dispatch_idles (hp : Cors.preflight? origins r = none) (h : r.call? origins = none) :
    Idles (· < 500) (dispatch r) := by
  by_cases htaken : ∃ route, resolve r.method r.target.path = .taken route
  · obtain ⟨route, hr⟩ := htaken
    unfold Incoming.call? at h
    unfold dispatch
    rw [hp, hr] at h
    rw [hr]
    exact endpoint_idles h
  · exact dispatch_lost (not_exists.1 htaken) (by decide) (by decide) (by decide)

theorem preflight?_status {a : Response} (h : Cors.preflight? origins r = some a) :
    a.status < 500 := by
  simp only [Cors.preflight?, Option.bind_eq_bind, Option.bind_eq_some_iff] at h
  obtain ⟨origin, -, method, -, h⟩ := h
  split at h
  next =>
    rw [← Option.some.inj h]
    unfold Cors.preflight
    rw [apply_ite Response.status]
    exact (ite_le_sup _ _ _).trans_lt (show max 200 400 < 500 by decide)
  next => cases h

theorem answer_idles {P : Nat → Prop} (hp : ∀ a ∈ Cors.preflight? origins r, P a.status)
    (hd : Cors.preflight? origins r = none → Idles P (dispatch r)) :
    Idles P (answer origins r) := by
  unfold answer
  split
  next h => exact idles_pure (hp _ h)
  next h _ =>
    intro c s
    exact .bind ((hd h c s).mono (fun _ _ h => ends_pure.2 h) fun _ _ h => h)
  next h _ => exact hd h

/-- A request that calls nothing is answered, and not as a server error. -/
theorem answer_idles_of_call? (h : r.call? origins = none) : Idles (· < 500) (answer origins r) :=
  answer_idles (fun _ => preflight?_status) fun hp => dispatch_idles hp h

theorem sentTo_status {method : String} {a : Response} : (a.sentTo method).status = a.status := by
  unfold Response.sentTo
  split <;> rfl

theorem serve_idles {P : Nat → Prop} {fresh : String} (h : Idles P (answer origins r)) :
    (serve origins fresh r).Ends c s
      (fun a t => t.store = s.store ∧ (c.fault = none → P a.status)) fun _ _ => False := by
  refine ends_withReader.2 (ends_tryCatch.2 (.bind ?_))
  refine (h _ s).mono (fun a t ht => ?_) fun e t ht => ?_
  · refine .bind (.report fun _ => ends_pure.2 ⟨ht.1, fun hf => ?_⟩)
    rw [sentTo_status]
    exact ht.2 hf
  · exact .bind (.report fun _ => ends_pure.2 ⟨ht.1, fun hf => absurd hf ht.2⟩)

theorem visit_idles {P : Nat → Prop} {site : Site} {serving : Bool}
    (h : Idles P (answer site.settings.web.corsOrigins r)) : (visit site serving r).Ends c s
      (fun a t => t.store = s.store ∧ (c.fault = none → P a.status)) fun _ _ => False := by
  cases serving with
  | true => exact serve_idles h
  | false => exact .bind (.report fun log => serve_idles (s := { s with log }) h)

end Http

/-! ## Steps -/

/-- The step with a request to the service in place of its action. -/
def Step.asking (x : Step) (r : Request Argument) : Step := { x with action := .service r }

namespace Session

open Op

variable {s : Session} {x : Step} {r : Http.Incoming} {call : Http.Call}

/-- **A request from outside is a request to the service.**  The step leaves the same
    store, takes the same draws, makes the same calls to the store, and answers what the
    service yields. -/
theorem take_web (hx : x.action = .web r)
    (h : r.call? x.site.settings.web.corsOrigins = some call) :
    let y := x.asking call.request
    (s.next x).store = (s.next y).store ∧ (s.take x).2.1.generator = (s.take y).2.1.generator ∧
      (s.take x).2.1.calls = (s.take y).2.1.calls ∧
      ∃ u a, (s.take y).1 = Reply.answer <$> u ∧ (s.take x).1 = .ok (.response a) ∧
        a.Like (call.reply u) := by
  intro y
  let d := s.conditions x.site.settings.engine x.cue
  let u := (Service.perform call.request).outcome d (s.scene x.cue)
  obtain ⟨hyields, hleaves⟩ : (s.take y).1 = Reply.answer <$> u.1 ∧ (s.take y).2.1 = u.2 :=
    take_of_work rfl
  have hends : (x.action.work x.site s.serving).Ends d (s.scene x.cue)
      (fun reply t => ∃ a, reply = .response a ∧ t.unlogged = u.2.unlogged ∧
        a.Like (call.reply u.1)) fun _ _ => False := by
    rw [hx]
    exact ends_map.2 ((Http.visit_ends h).mono (fun a _ ht => ⟨a, rfl, ht⟩) fun _ _ h => h)
  rcases take_of_ends hends with ⟨_, hr, a, rfl, hsame, hlike⟩ | ⟨_, -, h⟩
  · rw [← hleaves] at hsame
    obtain ⟨hstore, hgenerator, hcalls⟩ := Scene.eq_of_unlogged hsame
    exact ⟨hstore, hgenerator, hcalls, u.1, a, hyields, hr, hlike⟩
  · exact h.elim

/-- What holds of all that the service yields for a call, and of the store that it leaves,
    holds of what is answered. -/
theorem take_web_of_ends {P : Answer → Store → Prop} {Q : Failure → Store → Prop}
    (hx : x.action = .web r) (h : r.call? x.site.settings.web.corsOrigins = some call)
    (hends : (Service.perform call.request).Ends (s.conditions x.site.settings.engine x.cue)
      (s.scene x.cue) (fun b t => P b t.store) fun e t => Q e t.store) :
    ∃ a, (s.take x).1 = .ok (.response a) ∧
      ((∃ b, P b (s.next x).store ∧ a.Like (call.reply (.ok b))) ∨
        ∃ e, Q e (s.next x).store ∧ a.Like (call.reply (.error e))) := by
  obtain ⟨hstore, -, -, u, a, hyields, ha, hlike⟩ := take_web hx h
  have hasked : ((x.asking call.request).action.work x.site s.serving).Ends
      (s.conditions x.site.settings.engine x.cue) (s.scene x.cue)
      (fun reply t => ∃ b, reply = .answer b ∧ P b t.store) fun e t => Q e t.store :=
    ends_map.2 (hends.mono (fun b _ hb => ⟨b, rfl, hb⟩) fun _ _ h => h)
  refine ⟨a, ha, ?_⟩
  rw [hstore]
  rcases take_of_ends (x := x.asking call.request) hasked with ⟨_, hr, b, rfl, hb⟩ | ⟨e, hr, he⟩
  · rw [hyields] at hr
    cases u with
    | ok b' =>
      cases hr
      exact .inl ⟨b, hb, hlike⟩
    | error => cases hr
  · rw [hyields] at hr
    cases u with
    | ok => cases hr
    | error e' =>
      cases hr
      exact .inr ⟨e, he, hlike⟩

/-- A request from outside that idles is answered, and nothing else happens. -/
theorem take_of_idles {P : Nat → Prop} (hx : x.action = .web r)
    (h : Http.Idles P (Http.answer x.site.settings.web.corsOrigins r)) :
    (s.next x).store = s.store ∧ ∃ a, (s.take x).1 = .ok (.response a) ∧
      (x.cue.fault = none → P a.status) := by
  have hends : (x.action.work x.site s.serving).Ends
      (s.conditions x.site.settings.engine x.cue) (s.scene x.cue)
      (fun reply t => ∃ a, reply = .response a ∧ t.store = s.store ∧
        (x.cue.fault = none → P a.status)) fun _ _ => False := by
    rw [hx]
    exact ends_map.2 ((Http.visit_idles h).mono (fun a _ ht => ⟨a, rfl, ht⟩) fun _ _ h => h)
  rcases take_of_ends hends with ⟨_, hr, a, rfl, hstore, hstatus⟩ | ⟨_, -, h⟩
  · exact ⟨hstore, a, hr, hstatus⟩
  · exact h.elim

/-- The same where nothing is called. -/
theorem take_idle (hx : x.action = .web r) (h : r.call? x.site.settings.web.corsOrigins = none) :
    (s.next x).store = s.store ∧ ∃ a, (s.take x).1 = .ok (.response a) ∧
      (x.cue.fault = none → a.status < 500) :=
  take_of_idles hx (Http.answer_idles_of_call? h)

end Session

end ReviewRota
