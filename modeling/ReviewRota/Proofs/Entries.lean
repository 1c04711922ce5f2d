/-
  ReviewRota — entries of the log.

  Whatever is done adds entries to the log, each with what is bound there at the time.  An
  operation of the service binds nothing; a request from outside binds its correlation id
  and, while it calls the service, the ids that its body brings.

  * `Op.Writes`: the entries that are added are all such, and the same whatever was in the
    log, with a rule for each way of putting operations together;
  * `Plain.writes`: plain operations write under what is bound when they begin, and report
    what comes from a component of the service;
  * `Incoming.Within`: what may be bound while a request is answered, and
    `Http.answer_writes`: so it is with every entry but the last;
  * `Action.work_writes`: every other step writes under what was bound before it;
  * `Entry.line_correlation`, `Entry.line_anonymous` and `Entry.mem_line`: what a line says
    of what was bound.
-/
import ReviewRota.Proofs.Forms

namespace ReviewRota

variable {α β : Type}

/-! ## Entries that are added -/

namespace Op

/-- Under the conditions, whatever has been written before, the operation does the same, and
    adds the same entries to the log, which are all such. -/
def Writes (op : Op α) (c : Conditions) (P : Log.Entry → Prop) : Prop :=
  ∀ s : Scene, ∃ r, ∃ t : Scene, ∃ entries, (∀ e ∈ entries, P e) ∧
    ∀ log, op.outcome c { s with log } = (r, { t with log := log ++ entries })

namespace Writes

variable {c : Conditions} {P Q : Log.Entry → Prop} {x : Op α} {f : α → Op β} {call : StoreCall}

theorem mono (h : x.Writes c P) (hPQ : ∀ e, P e → Q e) : x.Writes c Q := by
  intro s
  obtain ⟨r, t, entries, hentries, ho⟩ := h s
  exact ⟨r, t, entries, fun e he => hPQ e (hentries e he), ho⟩

/-- An operation that does not look at the log and leaves it as it is. -/
theorem of_unlogged (h : ∀ s : Scene, ∃ r, ∃ t : Scene, ∀ log,
    x.outcome c { s with log } = (r, { t with log })) : x.Writes c P := by
  intro s
  obtain ⟨r, t, ho⟩ := h s
  refine ⟨r, t, [], nofun, fun log => ?_⟩
  rw [ho, List.append_nil]

theorem pure (a : α) : (pure a : Op α).Writes c P := of_unlogged fun s => ⟨.ok a, s, fun _ => rfl⟩

theorem throw (e : Failure) : (throw e : Op α).Writes c P :=
  of_unlogged fun s => ⟨.error e, s, fun _ => rfl⟩

theorem reach (call : StoreCall) : (Op.reach call).Writes c P := by
  refine of_unlogged fun s => ⟨((Op.reach call).outcome c s).1, ((Op.reach call).outcome c s).2, ?_⟩
  intro log
  rw [outcome_reach, outcome_reach]

theorem drawing (work : Drawing α) : (Op.drawing work).Writes c P := by
  refine of_unlogged fun s =>
    ⟨((Op.drawing work).outcome c s).1, ((Op.drawing work).outcome c s).2, ?_⟩
  intro log
  rw [outcome_drawing, outcome_drawing]

theorem report {e : Log.Event} (h : P ⟨c.context, e⟩) : (Op.report e).Writes c P := fun s =>
  ⟨.ok (), s, [⟨c.context, e⟩], fun e' he => by rwa [List.mem_singleton.1 he], fun _ => rfl⟩

theorem reading {f : Conditions → Op α} (h : (f c).Writes c P) : (read >>= f).Writes c P := h

theorem withReader {g : Conditions → Conditions} (h : x.Writes (g c) P) :
    (withReader g x : Op α).Writes c P := h

theorem getting {f : Scene → Op α} (hf : ∀ (s : Scene) log, f { s with log } = f s)
    (h : ∀ s, (f s).Writes c P) : (get >>= f).Writes c P := by
  intro s
  obtain ⟨r, t, entries, hentries, ho⟩ := h s s
  refine ⟨r, t, entries, hentries, fun log => ?_⟩
  rw [← ho log, ← hf s log]
  rfl

theorem modify {g : Scene → Scene} (h : ∀ (s : Scene) log, g { s with log } = { g s with log }) :
    (modify g : Op Unit).Writes c P :=
  of_unlogged fun s => ⟨.ok (), g s, fun log => congrArg (Except.ok (), ·) (h s log)⟩

theorem bind (hx : x.Writes c P) (hf : ∀ a, (f a).Writes c P) : (x >>= f).Writes c P := by
  intro s
  obtain ⟨r, t, entries, hentries, ho⟩ := hx s
  cases r with
  | error e =>
    refine ⟨.error e, t, entries, hentries, fun log => ?_⟩
    rw [outcome_bind, ho]
  | ok a =>
    obtain ⟨r, u, more, hmore, hu⟩ := hf a t
    refine ⟨r, u, entries ++ more, List.forall_mem_append.2 ⟨hentries, hmore⟩, fun log => ?_⟩
    rw [outcome_bind, ho]
    dsimp only
    rw [hu, List.append_assoc]

theorem map (g : α → β) (hx : x.Writes c P) : (g <$> x).Writes c P := by
  rw [map_eq_pure_bind]
  exact hx.bind fun _ => pure _

theorem tryCatch {h : Failure → Op α} (hx : x.Writes c P) (hh : ∀ e, (h e).Writes c P) :
    (tryCatch x h).Writes c P := by
  intro s
  obtain ⟨r, t, entries, hentries, ho⟩ := hx s
  cases r with
  | ok a =>
    refine ⟨.ok a, t, entries, hentries, fun log => ?_⟩
    rw [outcome_tryCatch, ho]
  | error e =>
    obtain ⟨r, u, more, hmore, hu⟩ := hh e t
    refine ⟨r, u, entries ++ more, List.forall_mem_append.2 ⟨hentries, hmore⟩, fun log => ?_⟩
    rw [outcome_tryCatch, ho]
    dsimp only
    rw [hu, List.append_assoc]

theorem unlessTaken {cause : Cause} {note : Op Unit} (hx : x.Writes c P) (hn : note.Writes c P) :
    (Op.unlessTaken cause note x).Writes c P := by
  refine hx.tryCatch fun e => ?_
  split
  · exact bind (throw e) fun _ => hn.bind fun _ => throw _
  · exact hn.bind fun _ => throw _

theorem ofExcept (r : Except Failure α) : (MonadExcept.ofExcept r : Op α).Writes c P := by
  cases r with
  | ok a => exact .pure a
  | error e => exact .throw e

theorem query {f : Store → α} : (Op.query call f).Writes c P :=
  .bind (.reach call) fun _ => .getting (fun _ _ => rfl) fun _ => .pure _

theorem write {f : Store → Moment → Store} : (Op.write call f).Writes c P :=
  .bind (.reach call) fun _ => .reading (.modify fun _ _ => rfl)

theorem attempt {f : Store → Moment → Except Failure Store} : (Op.attempt call f).Writes c P :=
  .bind (.reach call) fun _ => .reading (.getting (fun _ _ => rfl) fun _ =>
    .bind (.ofExcept _) fun _ => .modify fun _ _ => rfl)

theorem limited {limit : Option Int} {l : List α} : (Op.limited limit l).Writes c P := by
  unfold Op.limited
  split
  · exact .pure l
  · split
    · exact .throw _
    · exact .pure _

theorem unitOfWork (hx : x.Writes c P) : (Op.unitOfWork x).Writes c P :=
  .bind (.reach _) fun _ => .getting (fun _ _ => rfl) fun _ =>
    .tryCatch hx fun e => .bind (.modify fun _ _ => rfl) fun _ => .throw e

end Writes

/-- **Plain operations bind nothing**: what they report comes from a component of the
    service, under what was bound when they began. -/
theorem Plain.writes {op : Op α} {c : Conditions} (h : op.Plain) :
    op.Writes c fun e => e.context = c.context ∧ e.event.component?.isSome := by
  induction h with
  | pure a => exact .pure a
  | throw e => exact .throw e
  | report h => exact .report ⟨rfl, h⟩
  | reading _ _ ih => exact .reading (ih c)
  | getting hf _ ih => exact .getting (fun s log => (hf { s with log }).symm.trans (hf s)) ih
  | @modify g h =>
    refine .modify fun s log => ?_
    have hsame : (g { s with log }).unlogged = (g s).unlogged :=
      (h { s with log }).2.1.symm.trans (h s).2.1
    have hlog : (g { s with log }).log = log := (h { s with log }).2.2
    calc g { s with log }
        = { (g { s with log }).unlogged with log := (g { s with log }).log } := rfl
      _ = { (g s).unlogged with log } := by rw [hsame, hlog]
      _ = { g s with log } := rfl
  | reach => exact .reach _
  | sample | choice => exact .drawing _
  | bind _ _ ihx ihf => exact ihx.bind ihf
  | rethrow _ _ _ ihx ihh => exact ihx.tryCatch ihh
  | unlessTaken _ hn _ _ ihf =>
    refine .unlessTaken ((Writes.reach _).bind ihf) ?_
    rcases hn with rfl | ⟨e, he, rfl⟩
    · exact .pure _
    · exact .report ⟨rfl, he⟩

end Op

/-! ## Requests from outside -/

/-- The event says that the answer to a request is done. -/
def Log.Event.closes : Log.Event → Bool
  | requestCompleted .. | requestFailed .. => true
  | _ => false

theorem Log.Event.closes_of_component {e : Log.Event} (h : e.component?.isSome) :
    e.closes = false := by
  cases e <;> first | rfl | cases h

namespace Http

open Op

variable {c : Conditions} {r : Incoming} {fresh path : String} {origins : List String}

/-- What may be bound to the log while a request is answered: its correlation id, and
    nothing else or the ids that belong to what it asks. -/
structure Incoming.Within (fresh : String) (r : Incoming) (k : Log.Context) : Prop where
  correlation : k.correlation = some (correlation fresh r)
  bound : k.bound = [] ∨ ∃ q, r.Asks q ∧ k.bound = boundBy q

/-- The entry is written while the request is answered, and not at the end of that. -/
def Incoming.Notes (fresh : String) (r : Incoming) (e : Log.Entry) : Prop :=
  r.Within fresh e.context ∧ e.event.closes = false

theorem responseTo_writes {e : Failure} (h : r.Within fresh c.context) :
    (responseTo path e).Writes c (r.Notes fresh) := by
  have hnote : ∀ event : Log.Event, event.closes = false →
      ∀ a : Response, (do report event; return a : Op Response).Writes c (r.Notes fresh) :=
    fun event he a => .bind (.report ⟨h, he⟩) fun _ => .pure a
  unfold responseTo
  split
  · unfold refusal
    dsimp only
    split
    · exact hnote _ rfl _
    · exact hnote _ rfl _
  · unfold storeTrouble
    split
    · exact hnote _ rfl _
    · exact hnote _ rfl _
  · exact hnote _ rfl _
  · exact .throw _

/-- The ids of a call are bound where nothing was bound. -/
theorem bindAll_boundBy {k : Log.Context} {q : Request Argument} (hk : k.bound = []) :
    (boundBy q).foldl (fun t f => t.bind f.1 f.2) k = ⟨k.correlation, boundBy q⟩ := by
  obtain ⟨correlation, bound⟩ := k
  subst hk
  cases q <;> rfl

theorem callService_writes {q : Request Argument} (hq : r.Asks q)
    (hk : c.context = ⟨some (correlation fresh r), []⟩) :
    (callService path (.of q)).Writes c (r.Notes fresh) := by
  have hwithin : r.Within fresh
      ((boundBy q).foldl (fun t f => t.bind f.1 f.2) c.context) := by
    rw [hk, bindAll_boundBy rfl]
    exact ⟨rfl, .inr ⟨q, hq, rfl⟩⟩
  refine .withReader (.tryCatch (.bind (Service.perform_plain.writes.mono fun e he => ?_)
    fun _ => .pure _) fun _ => responseTo_writes hwithin)
  exact ⟨he.1 ▸ hwithin, Log.Event.closes_of_component he.2⟩

theorem readiness_writes (h : r.Within fresh c.context) : readiness.Writes c (r.Notes fresh) := by
  refine .tryCatch ?_ fun e => ?_
  · exact .bind (.reach _) fun _ => .bind (.report ⟨h, rfl⟩) fun _ => .pure _
  · split
    · exact .bind (.report ⟨h, rfl⟩) fun _ => .pure _
    · exact .throw e

theorem endpoint_writes {route : Route} (hroute : resolve r.method r.target.path = .taken route)
    (hp : Cors.preflight? origins r = none)
    (hk : c.context = ⟨some (correlation fresh r), []⟩) :
    (endpoint path route r).Writes c (r.Notes fresh) := by
  have hwithin : r.Within fresh c.context := by
    rw [hk]
    exact ⟨rfl, .inl rfl⟩
  unfold endpoint
  split
  next =>
    split
    · exact .tryCatch (readiness_writes hwithin) fun _ => responseTo_writes hwithin
    · exact .pure _
  next => exact .pure _
  next call _ hcall =>
    have hread : route.read? r = some call := by
      unfold Route.read?
      rw [hcall]
    have hasked : r.call? origins = some call := by
      unfold Incoming.call?
      rw [hp, hroute]
      exact hread
    obtain ⟨q, hq, rfl⟩ := Incoming.asks_of_call? hasked
    exact callService_writes hq hk
  next => exact .bind (.report ⟨hwithin, rfl⟩) fun _ => .pure _

/-- **What is written while a request is answered** belongs to the request. -/
theorem answer_writes (hk : c.context = ⟨some (correlation fresh r), []⟩) :
    (answer origins r).Writes c (r.Notes fresh) := by
  have hdispatch : Cors.preflight? origins r = none → (dispatch r).Writes c (r.Notes fresh) := by
    intro hp
    unfold dispatch
    split
    next route hroute => exact endpoint_writes hroute hp hk
    all_goals exact .pure _
  unfold answer
  split
  next => exact .pure _
  next hp _ => exact .bind (hdispatch hp) fun _ => .pure _
  next hp _ => exact hdispatch hp

/-- A request is answered under its correlation id, and at the end it is noted how. -/
theorem serve_outcome {s : Scene} : (serve origins fresh r).outcome c s =
    match (answer origins r).outcome { c with context := ⟨some (correlation fresh r), []⟩ } s with
    | (.ok a, t) => (.ok ((a.adding [(correlationHeader, correlation fresh r)]).sentTo r.method),
      { t with log := t.log ++ [⟨⟨some (correlation fresh r), []⟩,
        .requestCompleted r.method r.target.logged a.status⟩] })
    | (.error e, t) => (.ok (serverError.sentTo r.method),
      { t with log := t.log ++ [⟨⟨some (correlation fresh r), []⟩,
        .requestFailed r.method r.target.logged e.text⟩] }) := by
  have hserve : (serve origins fresh r).outcome c s = (tryCatch (do
      let response ← answer origins r
      Op.report (.requestCompleted r.method r.target.logged response.status)
      return (response.adding [(correlationHeader, correlation fresh r)]).sentTo r.method)
    fun f => do
      Op.report (.requestFailed r.method r.target.logged f.text)
      return serverError.sentTo r.method : Op Response).outcome
        { c with context := ⟨some (correlation fresh r), []⟩ } s := rfl
  rw [hserve, outcome_tryCatch, outcome_bind]
  rcases (answer origins r).outcome { c with context := ⟨some (correlation fresh r), []⟩ } s
    with ⟨e | a, t⟩
  · rfl
  · rfl

/-- What is written while the request is served belongs to it, and the last entry says, as
    no other does, that the answer is done. -/
def Incoming.Journal (fresh : String) (r : Incoming) (entries : List Log.Entry) : Prop :=
  ∃ notes last, entries = notes ++ [last] ∧ (∀ e ∈ notes, r.Notes fresh e) ∧
    r.Within fresh last.context ∧ last.event.closes = true

/-- Whatever has been written before, a request is served in the same way, with the same
    entries. -/
theorem serve_journal (origins : List String) (c : Conditions) (s : Scene) :
    ∃ reply, ∃ t : Scene, ∃ entries, r.Journal fresh entries ∧ ∀ log,
      (serve origins fresh r).outcome c { s with log } =
        (reply, { t with log := log ++ entries }) := by
  have hwrites : (answer origins r).Writes { c with context := ⟨some (correlation fresh r), []⟩ }
      (r.Notes fresh) := answer_writes rfl
  obtain ⟨reply, t, notes, hnotes, ho⟩ := hwrites s
  have hjournal : ∀ event : Log.Event, event.closes = true →
      r.Journal fresh (notes ++ [⟨⟨some (correlation fresh r), []⟩, event⟩]) :=
    fun event he => ⟨notes, _, rfl, hnotes, ⟨rfl, .inl rfl⟩, he⟩
  cases reply with
  | ok a =>
    refine ⟨.ok ((a.adding [(correlationHeader, correlation fresh r)]).sentTo r.method), t, _,
      hjournal (.requestCompleted r.method r.target.logged a.status) rfl, ?_⟩
    intro log
    rw [serve_outcome, ho, ← List.append_assoc]
  | error e =>
    refine ⟨.ok (serverError.sentTo r.method), t, _,
      hjournal (.requestFailed r.method r.target.logged e.text) rfl, ?_⟩
    intro log
    rw [serve_outcome, ho, ← List.append_assoc]

end Http

/-! ## Other steps -/

namespace Access

open Op

variable {P : Log.Entry → Prop} {c : Conditions} {call : StoreCall} {fallback : Result}

theorem consult_writes {a : Argument} : (consult call a).Writes c P := by
  refine .bind (.reach call) fun _ => ?_
  cases a.obstacle? with
  | none => exact .pure _
  | some f => exact .throw f

theorem notStored_writes {table : String} {l : List Argument} :
    (notStored call table l : Op α).Writes c P :=
  .bind (.reach call) fun _ => .throw _

theorem stored_writes {team : Option String} : (stored team).Writes c P :=
  .getting (fun _ _ => rfl) fun _ => .pure _

theorem found_writes {a : Argument} {work : String → Op Result} (h : ∀ s, (work s).Writes c P) :
    (found call a fallback work).Writes c P := by
  cases a with
  | text s => exact h s
  | missing | broken => exact .bind consult_writes fun _ => .pure _

theorem foundBy_writes {l : List Argument} {work : List String → Op Result}
    (h : ∀ texts, (work texts).Writes c P) : (foundBy call l fallback work).Writes c P := by
  unfold foundBy
  cases l.mapM Argument.text? with
  | some texts => exact h texts
  | none =>
    refine .bind (.reach call) fun _ => ?_
    cases l.findSome? Argument.obstacle? with
    | some f => exact .throw f
    | none => exact .pure _

theorem putUser_writes {team : Option String} {user name : Argument} {active : Option Bool} :
    (putUser team user name active).Writes c P := by
  refine .bind stored_writes fun _ => ?_
  split
  · exact .bind .write fun _ => .pure _
  · exact notStored_writes

/-- A call to the store writes nothing to the log. -/
theorem perform_writes {a : Access} : a.perform.Writes c P := by
  refine .unitOfWork ?_
  cases a with
  | findTeam | findUser | findPull | listReviewers | listHandovers | countStatusesOf =>
    exact found_writes fun _ => .bind .query fun _ => .pure _
  | addTeam team =>
    cases team with
    | text => exact .bind .attempt fun _ => .pure _
    | missing | broken => exact notStored_writes
  | putMember => exact putUser_writes
  | listMembers =>
    refine .bind stored_writes fun team => ?_
    cases team with
    | some => exact .bind .query fun _ => .pure _
    | none => exact .bind (.reach _) fun _ => .pure _
  | switchOff =>
    refine .bind stored_writes fun team => ?_
    cases team with
    | some =>
      exact .bind (.bind .query fun _ => .reading (.bind (.modify fun _ _ => rfl) fun _ =>
        .pure _)) fun _ => .pure _
    | none => exact .bind (.reach _) fun _ => .pure _
  | listReviews =>
    exact found_writes fun _ => .bind (.bind .query fun _ => .limited) fun _ => .pure _
  | listCandidates =>
    exact foundBy_writes fun _ => .bind stored_writes fun _ => .bind stored_writes fun _ =>
      .bind .query fun _ => .pure _
  | addPull pull title author =>
    have hrow : ∀ pull title author : String, (Op.addPull pull title author).Writes c P :=
      fun _ _ _ => .bind (.reach _) fun _ => .reading (.getting (fun _ _ => rfl) fun _ =>
        .bind (.ofExcept _) fun _ => .bind (.modify fun _ _ => rfl) fun _ => .pure _)
    cases pull with
    | missing | broken => exact notStored_writes
    | text =>
      cases title with
      | missing | broken => exact notStored_writes
      | text =>
        cases author with
        | missing | broken => exact notStored_writes
        | text => exact .bind (hrow _ _ _) fun _ => .pure _
  | lockReviewed => exact foundBy_writes fun _ => .bind .query fun _ => .pure _
  | assign pull reviewer =>
    cases pull with
    | missing | broken => exact notStored_writes
    | text =>
      cases reviewer with
      | missing | broken => exact notStored_writes
      | text => exact .bind .attempt fun _ => .pure _
  | unassign pull reviewer =>
    have hnone : ∀ l, (foundBy .unassign l (.number 0) fun _ => return .number 0).Writes c P :=
      fun l => foundBy_writes fun _ => .pure _
    cases pull with
    | missing => exact hnone [.missing, reviewer]
    | broken ps => exact hnone [.broken ps, reviewer]
    | text pull =>
      cases reviewer with
      | missing => exact hnone [.text pull, .missing]
      | broken ps => exact hnone [.text pull, .broken ps]
      | text =>
        exact .bind (.bind .query fun _ => .bind (.modify fun _ _ => rfl) fun _ => .pure _)
          fun _ => .pure _
  | recordHandover pull leaving joining =>
    cases pull with
    | missing | broken => exact notStored_writes
    | text =>
      cases leaving with
      | missing | broken => exact notStored_writes
      | text =>
        cases joining with
        | missing | text => exact .bind .write fun _ => .pure _
        | broken => exact .bind (.reach _) fun _ => .throw _
  | countByReviewer => exact .bind (.bind .query fun _ => .limited) fun _ => .pure _
  | countByPull | countByStatus | countByTeam => exact .bind .query fun _ => .pure _

end Access

/-- A command line binds nothing to what it writes. -/
theorem Command.run_writes {w : World} {args : List String} {c : Conditions} :
    (run w args).Writes c fun e => e.context = c.context := by
  have hperform : ∀ k opening s command, (perform k opening s command).Writes c
      fun e => e.context = c.context := by
    intro k opening s command
    unfold perform
    split
    · unfold performServe
      dsimp only
      split
      · exact .bind (.report rfl) fun _ => .pure _
      · exact .pure _
    · exact .bind (.report rfl) fun _ => .pure _
    · refine .tryCatch (.bind (Service.perform_plain.writes.mono fun _ h => h.1)
        fun _ => .pure _) fun e => ?_
      split
      · exact .pure _
      · exact .pure _
    · exact .pure _
  unfold run
  split
  · exact .pure _
  · split
    · exact .pure _
    · unfold runWith
      split
      · exact .pure _
      · split
        · exact .pure _
        · exact .bind (hperform _ _ _ _) fun _ => .pure _

/-- **Outside of requests nothing is bound**: what a step writes, it writes under what was
    bound before. -/
theorem Action.work_writes {a : Action} {site : Site} {serving : Bool} {c : Conditions}
    (h : a.isWeb = false) : (a.work site serving).Writes c fun e => e.context = c.context := by
  cases a with
  | wait => exact .pure _
  | service => exact (Service.perform_plain.writes.mono fun _ h => h.1).map _
  | desk => exact (Desk.performAny_plain.writes.mono fun _ h => h.1).map _
  | moveTo => exact (Desk.moveAny_plain.writes.mono fun _ h => h.1).map _
  | web => cases h
  | command => exact Command.run_writes.map _
  | access => exact Access.perform_writes.map _

/-! ## Lines -/

namespace Fields

variable {fs : Fields} {n : String} {p : String → Bool}

theorem get?_filter :
    Fields.get? (fs.filter fun f => p f.1) n = if p n then fs.get? n else none := by
  induction fs with
  | nil => simp
  | cons f fs ih =>
    by_cases hn : f.1 = n
    · subst hn
      by_cases hp : p f.1
      · simp [hp, get?_cons]
      · simpa [hp] using ih
    · by_cases hp : p f.1
      · simp [hp, get?_cons, hn, ih]
      · simp [hp, get?_cons, hn, ih]

/-- Entries put into a table one after another are those that were there and the new ones. -/
theorem mem_foldl_put {more : Fields} {f : String × Datum}
    (h : f ∈ more.foldl (fun t f => t.put f.1 f.2) fs) : f ∈ fs ∨ f ∈ more := by
  induction more generalizing fs with
  | nil => exact .inl h
  | cons g more ih =>
    rcases ih h with h | h
    · rcases mem_put h with rfl | h
      · exact .inr List.mem_cons_self
      · exact .inl h
    · exact .inr (List.mem_cons_of_mem g h)

end Fields

namespace Log

variable {e : Entry} {f : String × Datum} {id : String}

/-- What an event says by itself: its data, its component, its name, its level and its
    logger. -/
def Event.own (e : Event) : Fields :=
  let component := (e.component?.map fun c => ("component", Datum.text c)).toList
  (((Logger.binding ⟨e.logger, component⟩ e.fields).bound.put "event" (.text e.name)).put "level"
    (.text e.level.label)).put "logger" (.text (Logger.label ⟨e.logger, component⟩))

/-- The line of the event where nothing is bound. -/
def Event.line (e : Event) : Fields := Entry.line ⟨{}, e⟩

theorem Entry.line_eq :
    e.line = (e.context.mark (e.event.own.orElse e.context.bound)).filter fun f =>
      !directives.contains f.1 := by
  obtain ⟨context, event⟩ := e
  cases event <;> rfl

/-- A line carries the correlation id of the request. -/
theorem Entry.line_correlation (h : e.context.correlation = some id) :
    e.line.get? "correlation_id" = some (.text id) := by
  rw [line_eq, Fields.get?_filter (p := fun n => !directives.contains n), Context.mark, h]
  dsimp only
  rw [Fields.get?_put]
  rfl

/-- Beyond what the event says, a line carries the correlation id and what is bound. -/
theorem Entry.mem_line (h : f ∈ e.line) :
    f.1 = "correlation_id" ∨ f ∈ e.event.line ∨ f ∈ e.context.bound := by
  rw [line_eq, List.mem_filter] at h
  obtain ⟨hmem, hwritten⟩ := h
  have hmarked : f.1 = "correlation_id" ∨ f ∈ e.event.own.orElse e.context.bound := by
    unfold Context.mark at hmem
    split at hmem
    · exact (Fields.mem_put hmem).imp_left fun he => congrArg Prod.fst he
    · exact .inr hmem
  refine hmarked.imp_right fun hmem => ?_
  rcases List.mem_append.1 hmem with hown | hbound
  · refine .inl ?_
    rw [Event.line, line_eq]
    exact List.mem_filter.2 ⟨List.mem_append_left _ hown, hwritten⟩
  · exact .inr (List.mem_filter.1 hbound).1

/-- No event has a correlation id of its own. -/
theorem Event.own_anonymous {e : Event} (h : f ∈ e.own) : f.1 ≠ "correlation_id" := by
  have hfields : ∀ f ∈ e.fields, f.1 ≠ "correlation_id" := by
    cases e with
    | teamDeactivated _ impacted => cases impacted <;> simp [fields]
    | _ => simp [fields]
  unfold own at h
  rcases Fields.mem_put h with rfl | h
  · simp
  rcases Fields.mem_put h with rfl | h
  · simp
  rcases Fields.mem_put h with rfl | h
  · simp
  rcases Fields.mem_foldl_put h with h | h
  · obtain ⟨_, -, rfl⟩ := by simpa using h
    simp
  · exact hfields f h

/-- Where no request is served, a line carries no correlation id. -/
theorem Event.line_anonymous (e : Event) : e.line.get? "correlation_id" = none := by
  rw [Fields.get?_eq_none_iff]
  intro f hf
  rw [line, Entry.line_eq] at hf
  rcases List.mem_append.1 (List.mem_filter.1 hf).1 with h | h
  · exact own_anonymous h
  · cases (List.mem_filter.1 h).1

end Log

end ReviewRota
