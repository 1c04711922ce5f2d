/-
  ReviewRota — the service.

  The desk answers requests; the service stands in front of it.  It checks that
  the texts of a request are given before the store is touched, puts the usual
  limit in where a request asks for none, and reports an operation whose time has
  run out.

  * `Request.bounded` puts in the usual limit;
  * `Service.withDeadline` runs an operation in the time that the settings give
    it; without any time it does not begin;
  * `Service.perform` is the answer of the service: that of the desk, for a
    request that passes the check;
  * `Desk.performAny_bounded`: the desk puts in the same limit by itself, hence
    `Service.perform_passed`.
-/
import ReviewRota.Desk

namespace ReviewRota

/-- The request with the usual limit where it asks for none. -/
def Request.bounded (usual : Int) : Request τ → Request τ
  | .summary filter => .summary { filter with limit := limitOr usual filter.limit }
  | .reviewerReport user limit => .reviewerReport user (limitOr usual limit)
  | r => r

namespace Service

/-- There is time to begin an operation. -/
def hasTime (s : Settings.Engine) : Bool := s.timeoutSeconds.compare 0 = .gt

/-- An operation under its deadline: that the time ran out is reported. -/
def withDeadline (operation : String) (work : Op α) : Op α :=
  tryCatch (do if hasTime (← read).settings then work else throw .timeout) fun f => do
    if f = .timeout then Op.report (.timedOut operation (← read).settings.timeoutSeconds)
    throw f

/-- The answer of the service. -/
def perform (r : Request Argument) : Op Answer :=
  match r.objection? with
  | some refusal => throw (.refused refusal)
  | none => do
    let usual := (← read).settings.defaultLimit
    withDeadline r.name (Desk.performAny (r.bounded usual))

end Service

/-! ## The limit of the service and that of the desk -/

variable {α β : Type} {c : Conditions} {r : Request Argument}

/-- The usual limit is put in once and for all. -/
theorem limitOr_limitOr (usual limit : Int) :
    limitOr usual (limitOr usual limit) = limitOr usual limit := by
  by_cases h : 0 < limit <;> simp [limitOr, h]

namespace Op

theorem bind_congr_run {x : Op α} {f g : α → Op β} (h : ∀ a, (f a).run c = (g a).run c) :
    (x >>= f).run c = (x >>= g).run c :=
  congrArg (x.run c >>= ·) (funext h)

theorem tryCatch_congr_run {x y : Op α} {f : Failure → Op α} (h : x.run c = y.run c) :
    (tryCatch x f).run c = (tryCatch y f).run c :=
  congrArg (fun work => (tryCatch (fun _ => work) f : Op α).run c) h

theorem unitOfWork_congr_run {x y : Op α} (h : x.run c = y.run c) :
    (unitOfWork x).run c = (unitOfWork y).run c :=
  congrArg (fun work => (unitOfWork fun _ => work).run c) h

end Op

namespace Desk

open Op

/-- A summary depends on the limit that counts, not on the one that is asked for. -/
theorem summary_bounded (f : SummaryFilter) :
    (summary { f with limit := limitOr c.settings.defaultLimit f.limit }).run c =
      (summary f).run c := by
  refine unitOfWork_congr_run ?_
  let within (limit : Int) : Op Summary := do
    let reviewers ← countByReviewer f.window (some limit)
    let statuses ← countByStatus f.window
    let teams ← countByTeam f.window
    return ⟨reviewers, statuses, teams⟩
  show (within (limitOr c.settings.defaultLimit (limitOr c.settings.defaultLimit f.limit))).run c =
    (within (limitOr c.settings.defaultLimit f.limit)).run c
  rw [limitOr_limitOr]

theorem reviewerReport_bounded (id : String) (limit : Int) :
    (reviewerReport id (limitOr c.settings.defaultLimit limit)).run c =
      (reviewerReport id limit).run c := by
  refine unitOfWork_congr_run (bind_congr_run fun user => ?_)
  cases user with
  | none => rfl
  | some _ =>
    refine bind_congr_run fun counts => ?_
    let within (limit : Int) : Op ReviewerReport := do
      let recent ← listReviews id (some limit)
      return ⟨id, totalOf counts, countOf .opened counts, countOf .merged counts,
        recent.map PullRequest.brief⟩
    show (within (limitOr c.settings.defaultLimit (limitOr c.settings.defaultLimit limit))).run c =
      (within (limitOr c.settings.defaultLimit limit)).run c
    rw [limitOr_limitOr]

/-- **The desk puts in the same limit** by itself. -/
theorem performAny_bounded :
    (performAny (r.bounded c.settings.defaultLimit)).run c = (performAny r).run c := by
  cases r with
  | summary f => exact congrArg (Answer.summary <$> ·) (summary_bounded f)
  | reviewerReport user limit =>
    cases user with
    | text id => exact congrArg (Answer.reviewer <$> ·) (reviewerReport_bounded id limit)
    | missing | broken => rfl
  | _ => rfl

end Desk

namespace Service

theorem withDeadline_congr_run {name : String} {x y : Op α} (h : x.run c = y.run c) :
    (withDeadline name x).run c = (withDeadline name y).run c := by
  refine Op.tryCatch_congr_run ?_
  show (if hasTime c.settings then x else throw .timeout).run c =
    (if hasTime c.settings then y else throw .timeout).run c
  split
  · exact h
  · rfl

theorem perform_refused {e : Refusal} (h : r.objection? = some e) :
    perform r = throw (.refused e) := by
  rw [perform, h]

/-- A request that passes the check is answered by the desk in time. -/
theorem perform_passed (h : r.objection? = none) :
    perform r = withDeadline r.name (Desk.performAny r) := by
  funext c
  rw [perform, h]
  exact withDeadline_congr_run Desk.performAny_bounded

end Service

end ReviewRota
