/-
  ReviewRota — what is answered outside.

  The web application is a second way to the service.  What is asked from outside is asked
  of the service, word for word; it does there what it would do if it were asked directly,
  and the answer is told in the terms of clients: a result as a document that holds its
  values one by one, a refusal by a status, a code and a message.

  * `Op.Yields`: what holds of all that an operation yields, and `Request.Fits`: an answer
    of the kind that belongs to a request;
  * `Http.Shows`: the document in which an answer is shown, `Http.told`: what is told of a
    refusal;
  * `Session.Reachable.conveyed`: a request from outside and the request to the service
    that it stands for.
-/
import ReviewRota.Proofs.Faults
import ReviewRota.Proofs.Forms
import ReviewRota.Proofs.Trimmed

namespace ReviewRota

variable {α β : Type}

/-! ## Kinds of answers -/

namespace Op

/-- Whatever the operation yields has the property. -/
def Yields (op : Op α) (P : α → Prop) : Prop := ∀ c s, op.Ends c s (fun a _ => P a) fun _ _ => True

namespace Yields

variable {P : α → Prop} {Q : β → Prop} {x : Op α} {f : α → Op β}

theorem trivial : x.Yields fun _ => True := fun _ _ =>
  ends_iff.2 ⟨fun _ _ _ => True.intro, fun _ _ _ => True.intro⟩

theorem pure {a : α} (h : P a) : (pure a : Op α).Yields P := fun _ _ => h

theorem throw {e : Failure} : (throw e : Op α).Yields P := fun _ _ => True.intro

theorem bind (hf : ∀ a, (f a).Yields Q) : (x >>= f).Yields Q := fun c s =>
  ends_bind.2 ((trivial c s).mono (fun a t _ => hf a c t) fun _ _ h => h)

theorem map {g : α → β} (h : ∀ a, Q (g a)) : (g <$> x).Yields Q := fun c s =>
  ends_map.2 ((trivial c s).mono (fun a _ _ => h a) fun _ _ h => h)

theorem unitOfWork (hx : x.Yields P) : (Op.unitOfWork x).Yields P := fun c _ =>
  .unitOfWork (fun _ => (hx c _).mono (fun _ _ h => h) fun _ _ h => h) fun _ _ _ _ => True.intro

end Yields

end Op

namespace Request

variable {τ : Type}

/-- The answer is of the kind that belongs to the request. -/
def Fits (r : Request τ) (a : Answer) : Prop :=
  match r with
  | createTeam .. | showTeam _ => ∃ v, a = .team v
  | setUserActive .. => ∃ v, a = .user v
  | reviewsOf _ => ∃ pulls, a = .reviews pulls
  | openPull .. | merge _ => ∃ v, a = .pull v
  | replaceReviewer .. => ∃ v joining, a = .replaced v joining
  | deactivateTeam _ => ∃ d, a = .deactivation d
  | overview => ∃ o, a = .overview o
  | summary _ => ∃ v, a = .summary v
  | reviewerReport .. => ∃ v, a = .reviewer v
  | pullReport _ => ∃ v, a = .report v

theorem fits_of_complete {r : Request Argument} {r' : Request String} {a : Answer}
    (h : r.complete? = some r') (hfits : r'.Fits a) : r.Fits a := by
  cases r <;> simp [complete?, Option.bind_eq_some_iff] at h
  case overview | summary =>
    subst h
    exact hfits
  case createTeam | openPull | replaceReviewer => grind [Fits]
  all_goals
    obtain ⟨_, _, rfl⟩ := h
    exact hfits

end Request

namespace Desk

open Op

variable {name id : String} {a : Argument} {call : StoreCall} {cause : Cause}

theorem perform_fits {r : Request String} : (perform r).Yields r.Fits := by
  cases r with
  | replaceReviewer => exact .bind fun _ => .pure ⟨_, _, rfl⟩
  | _ => exact .map fun _ => ⟨_, rfl⟩

theorem absent_yields {P : α → Prop} : (absent call cause a : Op α).Yields P :=
  .unitOfWork (.bind fun _ => .throw)

theorem notStored_yields {P : α → Prop} {table : String} {l : List Argument} :
    (notStored call table l : Op α).Yields P := .bind fun _ => .throw

theorem unlessTaken_yields {P : α → Prop} {note : Op Unit} {x : Op α} (hx : x.Yields P) :
    (unlessTaken cause note x).Yields P := by
  refine fun c s => ends_unlessTaken.2 ((hx c s).mono (fun _ _ h => h) fun e t _ => ?_)
  split
  · exact Yields.trivial c t
  · exact True.intro

/-- A pull request without an id or a title is not opened, so nothing is yielded. -/
theorem openUnnamed_yields {P : Answer → Prop} {pull title : Argument} {author : String} :
    (openUnnamed pull title author).Yields P := by
  refine .unitOfWork (.bind fun user => ?_)
  cases user with
  | none => exact .throw
  | some user =>
    dsimp only
    split
    · exact .throw
    · exact unlessTaken_yields notStored_yields

theorem replaceUnnamed_yields {P : Answer → Prop} : (replaceUnnamed id a).Yields P := by
  refine .unitOfWork (.bind fun pull => ?_)
  cases pull with
  | none => exact .throw
  | some pull =>
    dsimp only
    split
    · exact .throw
    · exact .bind fun _ => .bind fun _ => .throw

theorem performIncomplete_fits {r : Request Argument} : (performIncomplete r).Yields r.Fits := by
  cases r with
  | createTeam team members =>
    cases team with
    | text => exact .unitOfWork (.bind fun _ => .bind fun _ => .bind fun _ => .pure ⟨_, rfl⟩)
    | missing | broken => exact .unitOfWork (unlessTaken_yields notStored_yields)
  | reviewsOf => exact .unitOfWork (.bind fun _ => .pure ⟨_, rfl⟩)
  | openPull pull title author =>
    cases author with
    | text => exact openUnnamed_yields
    | missing | broken => exact absent_yields
  | replaceReviewer pull =>
    cases pull with
    | text => exact replaceUnnamed_yields
    | missing | broken => exact absent_yields
  | overview | summary => exact .map fun _ => ⟨_, rfl⟩
  | showTeam | setUserActive | merge | deactivateTeam | reviewerReport | pullReport =>
    exact absent_yields

theorem performAny_fits {r : Request Argument} : (performAny r).Yields r.Fits := by
  unfold performAny
  cases h : r.complete? with
  | some r' =>
    exact fun c s => (perform_fits c s).mono (fun _ _ => Request.fits_of_complete h) fun _ _ h => h
  | none => exact performIncomplete_fits

end Desk

/-- Whatever is asked of the service, the answer is of its kind. -/
theorem Service.perform_fits {r : Request Argument} : (perform r).Yields r.Fits := fun c s =>
  perform_answered (Desk.performAny_fits c s)

/-! ## Documents -/

namespace Http

/-- A pull request as clients know it. -/
def pullTable (v : PullView) : Datum :=
  .table [("pull_request_id", .text v.id), ("pull_request_name", .text v.title),
    ("author_id", .text v.author), ("status", .text v.status.name),
    ("assigned_reviewers", .list (v.reviewers.map .text)), ("createdAt", .text v.createdAt.iso),
    ("mergedAt", .text? (v.mergedAt.map Moment.iso))]

/-- A pull request in a list. -/
def briefTable (p : PullBrief) : Datum :=
  .table [("pull_request_id", .text p.id), ("pull_request_name", .text p.title),
    ("author_id", .text p.author), ("status", .text p.status.name)]

/-- A team as clients know it. -/
def teamTable (v : TeamView) : Datum :=
  .table [("team_name", .text v.team), ("members", .list (v.members.map fun m =>
    .table [("user_id", .text m.userId), ("username", .text m.username),
      ("is_active", .bool m.active)]))]

/-- The document that shows the answer to a request: it holds the values of the answer one
    by one, under the names that clients know. -/
inductive Shows : Request Argument → Answer → Datum → Prop
  | createTeam {team members v} :
      Shows (.createTeam team members) (.team v) (.table [("team", teamTable v)])
  | showTeam {team v} : Shows (.showTeam team) (.team v) (teamTable v)
  | deactivateTeam {team d} : Shows (.deactivateTeam team) (.deactivation d)
      (.table [("deactivated_users", .int d.deactivated), ("reassigned", .int d.reassigned),
        ("removed", .int d.removed)])
  | setUserActive {user active v} : Shows (.setUserActive user active) (.user v)
      (.table [("user", .table [("user_id", .text v.id), ("username", .text v.name),
        ("team_name", .text v.team), ("is_active", .bool v.active)])])
  | reviewsOf {user pulls} : Shows (.reviewsOf user) (.reviews pulls)
      (.table [("user_id", user.datum), ("pull_requests", .list (pulls.map briefTable))])
  | openPull {pull title author v} :
      Shows (.openPull pull title author) (.pull v) (.table [("pr", pullTable v)])
  | merge {pull v} : Shows (.merge pull) (.pull v) (.table [("pr", pullTable v)])
  | replaceReviewer {pull leaving v joining} :
      Shows (.replaceReviewer pull leaving) (.replaced v joining)
        (.table [("pr", pullTable v), ("replaced_by", .text joining)])
  | overview {o} : Shows .overview (.overview o)
      (.table [("by_user", countsDatum "user_id" "assign_cnt" o.byUser),
        ("by_pr", countsDatum "pr_id" "assign_cnt" o.byPull),
        ("by_status", countsDatum "status" "pr_count" (byStatusName o.byStatus)),
        ("by_team", countsDatum "team_name" "assign_cnt" o.byTeam)])
  | summary {filter v} : Shows (.summary filter) (.summary v)
      (.table [("top_reviewers", countsDatum "user_id" "assign_cnt" v.reviewers),
        ("pr_status_counts", countsDatum "status" "pr_count" (byStatusName v.statuses)),
        ("team_assignments", countsDatum "team_name" "assign_cnt" v.teams)])
  | reviewerReport {user limit v} : Shows (.reviewerReport user limit) (.reviewer v)
      (.table [("user_id", .text v.user), ("assign_cnt", .int v.assigned),
        ("open_pr_cnt", .int v.opened), ("merged_pr_cnt", .int v.merged),
        ("recent_prs", .list (v.recent.map briefTable))])
  | pullReport {pull v} : Shows (.pullReport pull) (.report v)
      (.table [("pr_id", .text v.id), ("pr_name", .text v.title), ("author_id", .text v.author),
        ("status", .text v.status.name), ("reviewers", .list (v.reviewers.map .text)),
        ("created_at", .text v.createdAt.iso), ("merged_at", .text? (v.mergedAt.map Moment.iso)),
        ("reassignments", .list (v.handovers.map fun h =>
          .table [("old_reviewer_id", .text h.leaving), ("new_reviewer_id", .text? h.joining),
            ("changed_at", .text h.changedAt.iso)])),
        ("transfer_cnt", .int v.handovers.length)])

/-- The answer to a refusal: a status, a code and a message.  Nothing is said of what it is
    that is not there. -/
def told (e : Refusal) : Response :=
  match e.cause with
  | .userUnknown | .teamUnknown | .pullUnknown => .error 404 "NOT_FOUND" "resource not found"
  | .invalidArgument => .error 400 "INVALID_ARGUMENT" e.message
  | .teamExists => .error 400 "TEAM_EXISTS" e.message
  | .pullExists => .error 409 "PR_EXISTS" e.message
  | .pullMerged => .error 409 "PR_MERGED" e.message
  | .notAssigned => .error 409 "NOT_ASSIGNED" e.message
  | .noCandidate => .error 409 "NO_CANDIDATE" e.message
  | .internal | .unspecified | .entropyUnavailable | .invalidTransition =>
    .error 500 "INTERNAL" e.message

variable {q : Request Argument} {b : Answer}

theorem shows_of_fits (h : q.Fits b) : Shows q b (documentOf q b) := by
  cases q with
  | replaceReviewer =>
    obtain ⟨v, joining, rfl⟩ := h
    exact .replaceReviewer
  | _ =>
    obtain ⟨v, rfl⟩ := h
    constructor

theorem replyTo_refused {e : Refusal} : replyTo (.refused e) = told e := by
  obtain ⟨cause, note⟩ := e
  cases cause <;> rfl

/-- The body is a table without the field. -/
def Body.lacks (field : String) : Body → Bool
  | .document (.table fs) => (Fields.get? fs field).isNone
  | _ => false

end Http

/-! ## Requests from outside -/

namespace Session

open Op

variable {engine : Settings.Engine} {s : Session} {x : Step} {r : Http.Incoming}
  {q : Request Argument}

/-- What a step yields that makes a request to the service. -/
theorem take_fits (hx : x.action = .service q) :
    (∃ b, (s.take x).1 = .ok (.answer b) ∧ q.Fits b) ∨ ∃ e, (s.take x).1 = .error e := by
  have hends : (x.action.work x.site s.serving).Ends (s.conditions x.site.settings.engine x.cue)
      (s.scene x.cue) (fun reply _ => ∃ b, reply = .answer b ∧ q.Fits b) fun _ _ => True := by
    rw [hx]
    exact ends_map.2 ((Service.perform_fits _ _).mono (fun b _ hb => ⟨b, rfl, hb⟩) fun _ _ h => h)
  rcases take_of_ends hends with ⟨_, hr, b, rfl, hb⟩ | ⟨e, he, -⟩
  · exact .inl ⟨b, hr, hb⟩
  · exact .inr ⟨e, he⟩

/-- What is answered with another status than one of success has not happened. -/
theorem next_web_restores (hs : s.store.Sound) (hx : x.action = .web r) :
    ∃ a, (s.take x).1 = .ok (.response a) ∧
      (¬ (200 ≤ a.status ∧ a.status < 300) → (s.next x).store = s.store) := by
  cases hcall : r.call? x.site.settings.web.corsOrigins with
  | none =>
    obtain ⟨hstore, a, ha, -⟩ := take_idle hx hcall
    exact ⟨a, ha, fun _ => hstore⟩
  | some call =>
    obtain ⟨q, hasks, rfl⟩ := Http.Incoming.asks_of_call? hcall
    obtain ⟨a, ha, ⟨b, -, hlike⟩ | ⟨e, hstore, -⟩⟩ := take_web_of_ends (P := fun _ _ => True)
      (Q := fun _ store => store = s.store) hx hcall
      (Service.perform_restores (s := s.scene x.cue) hs)
    · refine ⟨a, ha, fun hfails => absurd ?_ hfails⟩
      have hok := Http.successOf_cases q
      rw [hlike.status]
      change 200 ≤ Http.successOf q ∧ Http.successOf q < 300
      omega
    · exact ⟨a, ha, fun _ => hstore⟩

/-- **The web application does what the service does.**  What is answered with another
    status than one of success has not happened.  And where a request from outside asks
    for something, the step leaves the same store and takes the same draws as the step that
    asks the service for it directly; if that is answered, the response has the status of a
    success and a document that holds the answer, and if it is refused, the response tells
    of the refusal. -/
theorem Reachable.conveyed (h : s.Reachable engine) (hx : x.action = .web r) :
    ∃ a, (s.take x).1 = .ok (.response a) ∧
      (¬ (200 ≤ a.status ∧ a.status < 300) → (s.next x).store = s.store) ∧
      ∀ q, r.Asks q → let y := x.asking q
        (s.next x).store = (s.next y).store ∧
        (s.take x).2.1.generator = (s.take y).2.1.generator ∧
        ((∃ b d, (s.take y).1 = .ok (.answer b) ∧ Http.Shows q b d ∧
            a.Like (.json (Http.successOf q) d)) ∨
          ∃ e, (s.take y).1 = .error e ∧ a.Like (Http.replyTo e) ∧
            ∀ f, e = .refused f → a.Like (Http.told f)) := by
  obtain ⟨a, ha, hrestores⟩ := next_web_restores h.sound hx
  refine ⟨a, ha, hrestores, fun q hasks => ?_⟩
  intro y
  obtain ⟨hstore, hdraws, -, u, a', hyields, ha', hlike⟩ := take_web (s := s) hx hasks.call?
  obtain rfl : a = a' := by
    rw [ha] at ha'
    cases ha'
    rfl
  refine ⟨hstore, hdraws, ?_⟩
  have hyields : (s.take y).1 = Reply.answer <$> u := hyields
  rcases take_fits (s := s) (x := y) rfl with ⟨b, hb, hfits⟩ | ⟨e, he⟩
  · rw [hyields] at hb
    cases u with
    | error => cases hb
    | ok =>
      cases hb
      exact .inl ⟨b, _, hyields, Http.shows_of_fits hfits, hlike⟩
  · rw [hyields] at he
    cases u with
    | ok => cases he
    | error =>
      cases he
      refine .inr ⟨e, hyields, hlike, ?_⟩
      rintro f rfl
      rw [← Http.replyTo_refused]
      exact hlike

/-- A request from outside to add a team with a name and no members. -/
theorem naming_asks : (naming "/team/add" "qa").Asks (.createTeam (.text "qa") []) := by
  have hname : (Http.readBody (naming "/team/add" "qa")).textAt? "team_name" = some "qa" := by
    decide +kernel
  have hmembers : (Http.readBody (naming "/team/add" "qa")).lacks "members" = true := by
    decide +kernel
  obtain ⟨fs, hfills, hget⟩ := Http.Body.textAt?_eq_some hname
  rw [hfills] at hmembers
  exact .createTeam ⟨rfl, .inl rfl⟩ hfills ⟨_, hget, rfl⟩
    (.inr ⟨Option.isNone_iff_eq_none.1 hmembers, rfl⟩)

theorem conveyed_opening :
    let s := blank.along opening
    let x : Step := { action := .web (naming "/team/add" "qa") }
    ∃ a, (s.take x).1 = .ok (.response a) ∧ a.status = 201 ∧
      a.content = .json (.table [("team",
        .table [("team_name", .text "qa"), ("members", .list [])])]) ∧
      (s.next x).store = (s.next (x.asking (.createTeam (.text "qa") []))).store := by
  intro s x
  have hanswer : answerOf? (s.take (x.asking (.createTeam (.text "qa") []))).1 =
      some (.team ⟨"qa", []⟩) := by decide +kernel
  obtain ⟨a, ha, -, hconveys⟩ := reachable_opening.conveyed (x := x) rfl
  obtain ⟨hstore, -, ⟨b, d, hb, hshows, hlike⟩ | ⟨e, he, -⟩⟩ := hconveys _ naming_asks
  · rw [hb] at hanswer
    obtain rfl := Option.some.inj hanswer
    cases hshows
    exact ⟨a, ha, hlike.status, hlike.content, hstore⟩
  · rw [he] at hanswer
    cases hanswer

end Session

end ReviewRota
