/-
  ReviewRota — what is bound to the log.

  In a process, what is bound to the log is a variable.  A request from outside sets it and
  clears it in the end, however it ends; what it calls runs in a task of its own, on a copy
  that the call extends.  Elsewhere an operation is given what is bound as a condition, and
  a step begins with nothing bound.  Both say the same, because the variable is clear
  whenever a step begins.

  * `Ambient`: work in a process, with `Ambient.bindAll`, `Ambient.clear`, `Ambient.inTask`
    and `Ambient.lastly`;
  * `Ambient.serve` is the answer to a request as it is given in a process, and
    `Ambient.outcome_serve`: it is the answer to the request, and leaves nothing bound;
  * `Incoming.Owns`: a line that belongs to a request;
  * `Process`: a session in a process, where `Process.take_clear` and `Process.along_clear`
    compare steps with those of a session;
  * `Process.contexts_apart`: what is written while a request is served belongs to it.
-/
import ReviewRota.Proofs.Entries
import ReviewRota.Proofs.Trimmed

namespace ReviewRota

variable {α β : Type}

/-! ## Work in a process -/

/-- Work in a process: what is bound to the log is a variable. -/
abbrev Ambient := ReaderT Conditions (ExceptT Failure (StateM (Scene × Log.Context)))

namespace Ambient

variable {c : Conditions} {s : Scene} {k : Log.Context} {w : Ambient α} {f : α → Ambient β}

/-- How the work ends, the scene that it leaves, and what it leaves bound. -/
def outcome (w : Ambient α) (c : Conditions) (s : Scene) (k : Log.Context) :
    Except Failure α × Scene × Log.Context := ((w.run c).run).run (s, k)

/-- An operation under what is bound. -/
def doing (op : Op α) : Ambient α := fun c => ExceptT.mk fun (s, k) =>
  let (r, t) := op.outcome { c with context := k } s
  (r, t, k)

/-- The correlation id that is bound from now on. -/
def identify (id : Option String) : Ambient Unit :=
  modify fun (s, k) => (s, { k with correlation := id })

/-- The ids that are bound as well from now on. -/
def bindAll (ids : Fields) : Ambient Unit :=
  modify fun (s, k) => (s, ids.foldl (fun t f => t.bind f.1 f.2) k)

/-- Nothing is bound from now on. -/
def clear : Ambient Unit := do
  identify none
  modify fun (s, k) => (s, { k with bound := [] })

/-- Work in a task of its own, where what is bound is a copy. -/
def inTask (w : Ambient α) : Ambient α := fun c => ExceptT.mk fun (s, k) =>
  let (r, t, _) := w.outcome c s k
  (r, t, k)

/-- Work after which something is done, however it ends. -/
def lastly (w : Ambient α) (done : Ambient Unit) : Ambient α := do
  let a ← tryCatch w fun e => do
    done
    throw e
  done
  return a

theorem outcome_bind : (w >>= f).outcome c s k =
    match w.outcome c s k with
    | (.ok a, t, l) => (f a).outcome c t l
    | (.error e, t, l) => (.error e, t, l) := by
  simp only [outcome, ReaderT.run_bind, ExceptT.run_bind, StateT.run_bind]
  rcases h : ((w.run c).run).run (s, k) with ⟨r, t⟩
  cases r <;> rfl

theorem outcome_tryCatch {h : Failure → Ambient α} : (tryCatch w h).outcome c s k =
    match w.outcome c s k with
    | (.ok a, t, l) => (.ok a, t, l)
    | (.error e, t, l) => (h e).outcome c t l := by
  simp only [outcome, tryCatch, tryCatchThe, MonadExceptOf.tryCatch, ReaderT.run, ExceptT.run,
    ExceptT.tryCatch, ExceptT.mk, StateT.run_bind]
  rcases h : StateT.run (w c) (s, k) with ⟨r, t⟩
  cases r <;> rfl

theorem outcome_doing {op : Op α} : (doing op).outcome c s k =
    ((op.outcome { c with context := k } s).1, (op.outcome { c with context := k } s).2, k) := rfl

theorem outcome_inTask : (inTask w).outcome c s k =
    ((w.outcome c s k).1, (w.outcome c s k).2.1, k) := rfl

/-- What is cleared in the end is clear, however the work ends. -/
theorem outcome_lastly_clear : (lastly w clear).outcome c s k =
    ((w.outcome c s k).1, (w.outcome c s k).2.1, {}) := by
  unfold lastly
  rw [outcome_bind, outcome_tryCatch]
  rcases w.outcome c s k with ⟨e | a, t, l⟩
  · rfl
  · rfl

/-! ## The web application in a process -/

section Web

open Http

variable {origins : List String} {fresh path : String} {r : Incoming} {call : Call}

/-- The answer of the service to a call, whose ids are bound first. -/
def callService (path : String) (call : Call) : Ambient Response := do
  bindAll call.bound
  doing (tryCatch (do
      let a ← Service.perform call.request
      return .json call.status (call.document a))
    (responseTo path))

/-- The answer to a request from any origin. -/
def answer (origins : List String) (r : Incoming) : Ambient Response :=
  match r.call? origins with
  | some call => do
    let a ← callService r.target.logged call
    return match r.header? "origin" with
    | some origin => a.adding (Cors.originHeaders origins origin)
    | none => a
  | none => doing (Http.answer origins r)

/-- The answer to any request: it is given in a task, under the correlation id of the
    request, and reported before what is bound is cleared. -/
def serve (origins : List String) (fresh : String) (r : Incoming) : Ambient Response :=
  let id := correlation fresh r
  tryCatch (do
      identify (some id)
      lastly (do
          let response ← tryCatch (inTask (answer origins r)) fun f => do
            doing (Op.report (.requestFailed r.method r.target.logged f.text))
            throw f
          doing (Op.report (.requestCompleted r.method r.target.logged response.status))
          return (response.adding [(correlationHeader, id)]).sentTo r.method)
        clear)
    fun _ => return serverError.sentTo r.method

/-- A request of the web application, which the first one sets up. -/
def visit (site : Site) (serving : Bool) (r : Incoming) : Ambient Response := do
  if !serving then doing (setUp site.settings.web.corsOrigins)
  serve site.settings.web.corsOrigins site.fresh r

/-- What a step does. -/
def act (site : Site) (serving : Bool) : Action → Ambient Reply
  | .web r => .response <$> visit site serving r
  | a => doing (a.work site serving)

/-- A call is answered as it is elsewhere; what is bound is not cleared by itself. -/
theorem outcome_callService : (callService path call).outcome c s k =
    (((Http.callService path call).outcome { c with context := k } s).1,
      ((Http.callService path call).outcome { c with context := k } s).2,
      call.bound.foldl (fun t f => t.bind f.1 f.2) k) := rfl

/-- A route that reads a call calls the service. -/
theorem endpoint_of_read? {route : Route} (h : route.read? r = some call) :
    endpoint path route r = Http.callService path call := by
  unfold Route.read? at h
  unfold endpoint
  split
  next hc => rw [hc] at h; cases h
  next hc =>
    rw [hc] at h
    split at h
    next he => cases he; cases h; exact absurd hc call?_undecodable
    next => cases h
  next hc => rw [hc] at h; cases h; rfl
  next hc => rw [hc] at h; cases h

/-- A request that is a call of the service is answered by it, with the headers for its
    origin. -/
theorem answer_of_call? (h : r.call? origins = some call) : Http.answer origins r = (do
    let a ← Http.callService r.target.logged call
    return match r.header? "origin" with
    | some origin => a.adding (Cors.originHeaders origins origin)
    | none => a) := by
  unfold Incoming.call? at h
  split at h
  next route hp hr =>
    have hdispatch : dispatch r = Http.callService r.target.logged call := by
      unfold dispatch
      rw [hr]
      exact endpoint_of_read? h
    unfold Http.answer
    rw [hp, hdispatch]
    cases r.header? "origin" with
    | some origin => rfl
    | none => exact (bind_pure _).symm
  next => cases h

/-- In a task of its own a request is answered as it is elsewhere. -/
theorem outcome_answer : (inTask (answer origins r)).outcome c s k =
    (((Http.answer origins r).outcome { c with context := k } s).1,
      ((Http.answer origins r).outcome { c with context := k } s).2, k) := by
  rw [outcome_inTask]
  unfold answer
  split
  next call h =>
    rw [answer_of_call? h, outcome_bind, Op.outcome_bind, outcome_callService]
    rcases (Http.callService r.target.logged call).outcome { c with context := k } s with ⟨e | a, t⟩
    · rfl
    · rfl
  next => rfl

/-- **However a request ends, nothing is bound afterwards**; and if no ids were bound
    before, it is answered as it is elsewhere. -/
theorem outcome_serve (h : k.bound = []) : (serve origins fresh r).outcome c s k =
    (((Http.serve origins fresh r).outcome c s).1, ((Http.serve origins fresh r).outcome c s).2,
      {}) := by
  obtain ⟨id, bound⟩ := k
  subst h
  have hidentified : (identify (some (correlation fresh r))).outcome c s ⟨id, []⟩ =
      (.ok (), s, ⟨some (correlation fresh r), []⟩) := rfl
  rw [serve_outcome]
  unfold serve
  rw [outcome_tryCatch, outcome_bind, hidentified]
  dsimp only
  rw [outcome_lastly_clear, outcome_bind, outcome_tryCatch, outcome_answer]
  rcases (Http.answer origins r).outcome { c with context := ⟨some (correlation fresh r), []⟩ } s
    with ⟨e | a, t⟩
  · rfl
  · rfl

/-- Where nothing is bound, a request is taken as it is elsewhere. -/
theorem outcome_visit {site : Site} {serving : Bool} : (visit site serving r).outcome c s {} =
    (((Http.visit site serving r).outcome { c with context := {} } s).1,
      ((Http.visit site serving r).outcome { c with context := {} } s).2, {}) := by
  cases serving with
  | true => exact outcome_serve rfl
  | false =>
    have hset : (setUp site.settings.web.corsOrigins).outcome { c with context := {} } s = (.ok (),
        { s with log := s.log ++ [⟨{}, .appCreated site.settings.web.corsOrigins version⟩] }) := rfl
    have hambient : visit site false r = (doing (setUp site.settings.web.corsOrigins) >>= fun _ =>
      serve site.settings.web.corsOrigins site.fresh r) := rfl
    have hop : Http.visit site false r = (setUp site.settings.web.corsOrigins >>= fun _ =>
      Http.serve site.settings.web.corsOrigins site.fresh r) := rfl
    rw [hambient, hop, outcome_bind, Op.outcome_bind, outcome_doing, hset]
    exact outcome_serve rfl

/-- **Where nothing is bound, a step acts as it does elsewhere, and leaves nothing bound.** -/
theorem outcome_act {site : Site} {serving : Bool} {a : Action} :
    (act site serving a).outcome c s {} =
      (((a.work site serving).outcome { c with context := {} } s).1,
        ((a.work site serving).outcome { c with context := {} } s).2, {}) := by
  cases a with
  | web r =>
    show (Reply.response <$> visit site serving r).outcome c s {} = (((Reply.response <$>
      Http.visit site serving r).outcome _ s).1, ((Reply.response <$>
      Http.visit site serving r).outcome _ s).2, {})
    rw [map_eq_pure_bind, outcome_bind, outcome_visit, Op.outcome_map]
    rcases (Http.visit site serving r).outcome { c with context := {} } s with ⟨e | a, t⟩
    · rfl
    · rfl
  | _ => rfl

end Web

end Ambient

/-! ## What belongs to a request -/

namespace Http

variable {r : Incoming} {q : Request Argument} {f : String × Datum} {fresh : String}
  {e : Log.Entry} {serving : Bool} {site : Site} {c : Conditions} {s : Scene}

/-- The body of the request brings the id, under the name that it has in the log. -/
inductive Incoming.Brings (r : Incoming) : String × Datum → Prop
  | pull {fs a} : r.Fills fs → fs.Gives "pull_request_id" Argument.read a →
      Brings r ("pr_id", a.datum)
  | team {fs a} : r.Fills fs → fs.Gives "team_name" Argument.read a →
      Brings r ("team_name", a.datum)
  | trimmedTeam {fs a} : r.Fills fs → fs.Gives "team_name" Argument.read a →
      Brings r ("team_name", a.trimmed.datum)
  | user {fs a} : r.Fills fs → fs.Gives "user_id" Argument.read a →
      Brings r ("user_id", a.datum)

/-- What is bound for what a request asks is in its body. -/
theorem Incoming.Asks.brings (h : r.Asks q) (hf : f ∈ boundBy q) : r.Brings f := by
  cases h with
  | createTeam _ hfills hteam =>
    rw [List.mem_singleton.1 hf]
    exact .team hfills hteam
  | deactivateTeam _ hfills hteam =>
    rw [List.mem_singleton.1 hf]
    exact .trimmedTeam hfills hteam
  | setUserActive _ hfills huser =>
    rw [List.mem_singleton.1 hf]
    exact .user hfills huser
  | openPull _ hfills hpull | merge _ hfills hpull | replaceReviewer _ hfills hpull =>
    rw [List.mem_singleton.1 hf]
    exact .pull hfills hpull
  | showTeam | reviewsOf | overview | summary | reviewerReport | pullReport => cases hf

/-- The line of the entry carries the correlation id of the request, and beyond that only
    what its event says and what the body of the request brings. -/
structure Incoming.Owns (fresh : String) (r : Incoming) (e : Log.Entry) : Prop where
  correlation : e.line.get? "correlation_id" = some (.text (Http.correlation fresh r))
  rest : ∀ f ∈ e.line, f.1 = "correlation_id" ∨ f ∈ e.event.line ∨ r.Brings f

theorem Incoming.Within.owns (h : r.Within fresh e.context) : r.Owns fresh e := by
  refine ⟨Log.Entry.line_correlation h.correlation, fun f hf => ?_⟩
  refine (Log.Entry.mem_line hf).imp_right (Or.imp_right fun hbound => ?_)
  rcases h.bound with hnone | ⟨q, hq, hids⟩
  · rw [hnone] at hbound
    cases hbound
  · rw [hids] at hbound
    exact hq.brings hbound

/-- The application is announced before the first request. -/
def announced (site : Site) (serving : Bool) : List Log.Entry :=
  if serving then [] else [⟨{}, .appCreated site.settings.web.corsOrigins version⟩]

theorem visit_outcome (hc : c.context = {}) : (visit site serving r).outcome c s =
    (serve site.settings.web.corsOrigins site.fresh r).outcome c
      { s with log := s.log ++ announced site serving } := by
  cases serving with
  | true =>
    show (serve _ _ r).outcome c s = (serve _ _ r).outcome c { s with log := s.log ++ [] }
    rw [List.append_nil]
  | false =>
    have hset : (setUp site.settings.web.corsOrigins).outcome c s =
        (.ok (), { s with log := s.log ++ announced site false }) := by
      rw [announced, ← hc]
      rfl
    have hvisit : visit site false r = (setUp site.settings.web.corsOrigins >>= fun _ =>
      serve site.settings.web.corsOrigins site.fresh r) := rfl
    rw [hvisit, Op.outcome_bind, hset]

end Http

/-- What says that a request is done is kept by every log of the level INFO or less. -/
theorem Log.Level.keeps_of_closes {threshold : Level} {e : Event}
    (h : threshold.keeps .info = true) (he : e.closes = true) :
    threshold.keeps e.level = true := by
  have hlevel : e.level = .info ∨ e.level = .error := by
    cases e <;> first | exact .inl rfl | exact .inr rfl | cases he
  rcases hlevel with hlevel | hlevel
  · rw [hlevel, h]
  · rw [hlevel]
    exact decide_eq_true ((of_decide_eq_true h).trans (by decide))

/-! ## Steps in a process -/

/-- A session in a process: the state between two steps, and what is bound to the log. -/
structure Process where
  session : Session
  context : Log.Context := {}

namespace Process

variable {start : Session} {p : Process} {before : List Step} {x : Step}

/-- A step in a process: how it ends, the scene that it leaves and the next state. -/
def take (p : Process) (x : Step) : Except Failure Reply × Scene × Process :=
  let s := p.session
  let (reply, scene, context) := (Ambient.act x.site s.serving x.action).outcome
    (s.conditions x.site.settings.engine x.cue) (s.scene x.cue) p.context
  (reply, scene,
    ⟨{ s.after x.cue scene with serving := s.serving || x.action.isWeb }, context⟩)

/-- The state after a step. -/
def next (p : Process) (x : Step) : Process := (p.take x).2.2

/-- The state after some steps. -/
def along (p : Process) (steps : List Step) : Process := steps.foldl next p

/-- What a step writes to a log of a level. -/
def writes (p : Process) (threshold : Log.Level) (x : Step) : List Log.Entry :=
  (p.take x).2.1.log.filter fun e => threshold.keeps e.event.level

/-- Where nothing is bound, a step is what it is in a session, and leaves nothing bound. -/
theorem take_clear {s : Session} :
    take ⟨s, {}⟩ x = ((s.take x).1, (s.take x).2.1, ⟨s.next x, {}⟩) := by
  unfold take
  dsimp only
  rw [Ambient.outcome_act]
  rfl

/-- **Nothing is bound between steps.** -/
theorem along_clear {s : Session} : along ⟨s, {}⟩ before = ⟨s.along before, {}⟩ := by
  induction before generalizing s with
  | nil => rfl
  | cons x before ih =>
    have hnext : next ⟨s, {}⟩ x = ⟨s.next x, {}⟩ := congrArg (·.2.2) take_clear
    show along (next ⟨s, {}⟩ x) before = _
    rw [hnext]
    exact ih

end Process

/-! ## Runs -/

namespace Session

variable {s : Session} {x : Step} {before : List Step} {r : Http.Incoming}

/-- The application has been set up if it was so before or some step was a request. -/
theorem serving_along :
    (s.along before).serving = (s.serving || before.any fun x => x.action.isWeb) := by
  induction before generalizing s with
  | nil => exact (Bool.or_false _).symm
  | cons x before ih =>
    show ((s.next x).along before).serving = _
    rw [ih, List.any_cons, ← Bool.or_assoc]
    rfl

/-- What a request writes does not depend on what was before, but for the announcement of
    the application. -/
theorem log_web (hx : x.action = .web r) :
    ∃ entries, r.Journal x.site.fresh entries ∧ ∀ serving,
      (({ s with serving } : Session).take x).2.1.log =
        Http.announced x.site serving ++ entries := by
  obtain ⟨site, cue, action⟩ := x
  obtain rfl : action = .web r := hx
  let c := s.conditions site.settings.engine cue
  obtain ⟨reply, t, entries, hjournal, ho⟩ :=
    Http.serve_journal site.settings.web.corsOrigins c (s.scene cue)
  refine ⟨entries, hjournal, fun serving => ?_⟩
  have hwork : ((Action.web r).work site serving).outcome c (s.scene cue) =
      (Reply.response <$> reply, { t with log := Http.announced site serving ++ entries }) := by
    show (Reply.response <$> Http.visit site serving r).outcome c (s.scene cue) = _
    rw [Op.outcome_map, Http.visit_outcome rfl, ho]
    rfl
  exact congrArg (fun o : Except Failure Reply × Scene => o.2.log) hwork

/-- Outside of requests nothing is bound to what a step writes. -/
theorem log_unbound (hx : x.action.isWeb = false) : ∀ e ∈ (s.take x).2.1.log, e.context = {} := by
  let c := s.conditions x.site.settings.engine x.cue
  have hwrites : (x.action.work x.site s.serving).Writes c fun e => e.context = {} :=
    Action.work_writes hx
  obtain ⟨reply, t, entries, hentries, ho⟩ := hwrites (s.scene x.cue)
  have hlog : (s.take x).2.1.log = entries :=
    congrArg (fun o : Except Failure Reply × Scene => o.2.log) (ho [])
  rwa [hlog]

/-- The clock, the store and the draws to come are the same. -/
structure Matches (s t : Session) : Prop where
  clock : s.clock = t.clock
  store : s.store = t.store
  draws : s.draws = t.draws

/-- Sessions that match differ at most in whether the application has been set up. -/
theorem Matches.eq {s t : Session} (h : s.Matches t) : s = { t with serving := s.serving } := by
  obtain ⟨clock, store, draws, serving⟩ := s
  obtain ⟨hclock, hstore, hdraws⟩ := h
  dsimp only at hclock hstore hdraws ⊢
  rw [hclock, hstore, hdraws]

end Session

namespace Process

variable {start : Session} {before : List Step} {x : Step} {r : Http.Incoming}
  {threshold : Log.Level}

/-- What a log of the level INFO or less keeps of a request. -/
theorem writes_web {s : Session} (hkeeps : threshold.keeps .info = true)
    (hx : x.action = .web r) :
    ∃ notes last, (∀ e ∈ notes, e.event.closes = false ∧ r.Owns x.site.fresh e) ∧
      (last.event.closes = true ∧ r.Owns x.site.fresh last) ∧
      ∀ serving, (Process.mk { s with serving } {}).writes threshold x =
        Http.announced x.site serving ++ notes ++ [last] := by
  obtain ⟨_, ⟨notes, last, rfl, hnotes, hlast, hcloses⟩, hlog⟩ := Session.log_web (s := s) hx
  refine ⟨notes.filter fun e => threshold.keeps e.event.level, last, fun e he => ?_,
    ⟨hcloses, hlast.owns⟩, fun serving => ?_⟩
  · obtain ⟨hwithin, hopen⟩ := hnotes e (List.mem_of_mem_filter he)
    exact ⟨hopen, hwithin.owns⟩
  · have hannounced : (Http.announced x.site serving).filter
        (fun e => threshold.keeps e.event.level) = Http.announced x.site serving := by
      cases serving with
      | true => rfl
      | false => exact List.filter_cons_of_pos hkeeps
    have hdone : threshold.keeps last.event.level = true :=
      Log.Level.keeps_of_closes hkeeps hcloses
    have hkept : [last].filter (fun e => threshold.keeps e.event.level) = [last] :=
      List.filter_cons_of_pos hdone
    unfold writes
    rw [take_clear, hlog serving, List.filter_append, List.filter_append, hannounced, hkept,
      List.append_assoc]

/-- **What is bound for a request does not leak.**  Whatever steps come before, of requests
    and others, nothing is bound when a step begins.  What a request writes carries its own
    correlation id and ids of its own body, and it ends in the one entry which says that the
    request is done; before the first request the application is announced.  The same
    request writes the same after other steps that lead to the same clock, store and draws.
    Outside of requests no line carries a correlation id, or anything else but what its
    event says. -/
theorem contexts_apart (hkeeps : threshold.keeps .info = true) (start : Session)
    (before : List Step) (x : Step) :
    (along ⟨start, {}⟩ before = ⟨start.along before, {}⟩ ∧
      (along ⟨start, {}⟩ before).take x = (((start.along before).take x).1,
        ((start.along before).take x).2.1, ⟨(start.along before).next x, {}⟩)) ∧
    (∀ r, x.action = .web r → ∃ notes last,
      (along ⟨start, {}⟩ before).writes threshold x = Http.announced x.site
        (start.serving || before.any fun y => y.action.isWeb) ++ notes ++ [last] ∧
      (∀ e ∈ notes, e.event.closes = false ∧ r.Owns x.site.fresh e) ∧
      (last.event.closes = true ∧ r.Owns x.site.fresh last) ∧
      ∀ start' before', (start'.along before').Matches (start.along before) →
        (along ⟨start', {}⟩ before').writes threshold x = Http.announced x.site
          (start'.serving || before'.any fun y => y.action.isWeb) ++ notes ++ [last]) ∧
    (x.action.isWeb = false → ∀ e ∈ (along ⟨start, {}⟩ before).writes threshold x,
      e.line.get? "correlation_id" = none ∧ e.line = e.event.line) := by
  rw [along_clear]
  refine ⟨⟨rfl, take_clear⟩, fun r hx => ?_, fun hx e he => ?_⟩
  · obtain ⟨notes, last, hnotes, hlast, hwrites⟩ :=
      writes_web (s := start.along before) hkeeps hx
    refine ⟨notes, last, ?_, hnotes, hlast, fun start' before' hmatches => ?_⟩
    · rw [← Session.serving_along, ← hwrites]
    · rw [along_clear, ← Session.serving_along, ← hwrites, ← hmatches.eq]
  · have hwritten : e ∈ ((start.along before).take x).2.1.log := by
      rw [writes, take_clear] at he
      exact List.mem_of_mem_filter he
    have hline : e.line = e.event.line := by
      obtain ⟨context, event⟩ := e
      obtain rfl : context = {} := Session.log_unbound hx _ hwritten
      rfl
    exact ⟨hline ▸ Log.Event.line_anonymous e.event, hline⟩

/-- A request that is refused, sent twice: it writes the same again. -/
theorem contexts_apart_twice :
    let r := Session.naming "/team/deactivate" "core "
    let x : Step := { site := { fresh := "id" }, action := .web r }
    let p : Process := ⟨Session.blank, {}⟩
    ∃ notes last, p.writes .info x = Http.announced x.site false ++ notes ++ [last] ∧
      (p.next x).writes .info x = notes ++ [last] ∧
      (∀ e ∈ notes, e.event.closes = false ∧ r.Owns "id" e) ∧
      last.event.closes = true ∧ r.Owns "id" last := by
  intro r x p
  have hclock : (Session.blank.along [x]).clock = Session.blank.clock := by decide +kernel
  have hstore : (Session.blank.along [x]).store = {} := by decide +kernel
  have hdraws : (Session.blank.along [x]).draws = [] := by decide +kernel
  have hmatches : (Session.blank.along [x]).Matches Session.blank := ⟨hclock, hstore, hdraws⟩
  have hkeeps : Log.Level.info.keeps .info = true := by decide
  obtain ⟨-, hweb, -⟩ := contexts_apart hkeeps Session.blank [] x
  obtain ⟨notes, last, hfirst, hnotes, hlast, hagain⟩ := hweb r rfl
  exact ⟨notes, last, hfirst, hagain Session.blank [x] hmatches, hnotes, hlast⟩

end Process

end ReviewRota
