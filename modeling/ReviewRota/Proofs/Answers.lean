/-
  ReviewRota — what is answered.

  A step that asks the desk, or that asks the service in time and with nothing missing,
  yields what the desk answers, unless a call goes wrong.

  * `Step.Makes`: the step makes a request to the desk or to the service; `Step.Asks`: in
    the latter case in time and with nothing missing; `Session.Spared`: no call of the
    step goes wrong;
  * `Session.take_of_desk`: such a step ends as the desk does, and from that
    `Session.take_of_answer`, `Session.take_of_asks`, `Session.take_answered`: what it
    yields, and `Session.take_of_makes`: what has been answered, if anything has;
  * `Desk.showTeam_answer`, `Desk.overview_answer` and `Desk.summary_answer`: what the
    desk answers to requests that read the tables as a whole, and `Session.take_overview`.
-/
import ReviewRota.Proofs.Runs

namespace ReviewRota

open Op

variable {c : Conditions} {s : Scene}

/-! ## Steps that ask -/

/-- The step makes the request, to the desk or to the service. -/
def Step.Makes (x : Step) (r : Request Argument) : Prop :=
  x.action = .desk r ∨ x.action = .service r

theorem Step.Makes.regular {x : Step} {r : Request Argument} (hx : x.Makes r) :
    x.Regular x.site.settings.engine := by
  refine ⟨rfl, ?_⟩
  rcases hx with hx | hx <;> rw [hx] <;> rfl

/-- The step makes the request to the desk; or it makes it to the service, with no
    text missing or blank and while there is time. -/
inductive Step.Asks (s : Session) (x : Step) (r : Request Argument) : Prop
  | desk : x.action = .desk r → Asks s x r
  | service : x.action = .service r → (∀ a ∈ r.required, a.2.isBlank = false) →
      Service.hasTime (s.conditions x.site.settings.engine x.cue).settings → Asks s x r

/-- No call to the store goes wrong in the step. -/
def Session.Spared (s : Session) (x : Step) : Prop :=
  ∀ f ∈ x.cue.fault, ¬ f.Strikes (s.take x).2.1.calls

theorem Request.objection?_eq_none {r : Request Argument} :
    r.objection? = none ↔ ∀ a ∈ r.required, a.2.isBlank = false := by
  simp [objection?, List.find?_eq_none]

/-- **What the service adds to the desk.**  It refuses a request to which it objects, it
    does not begin one for which there is no time, and it notes that the time has run out. -/
theorem Service.perform_of_desk {r : Request Argument} {done : Answer → Scene → Prop}
    {lost : Failure → Scene → Prop} (hrefused : ∀ e ∈ r.objection?, lost (.refused e) s)
    (hlate : ¬ hasTime c.settings → lost .timeout s)
    (hnote : ∀ t, lost .timeout t → (report (.timedOut r.name c.settings.timeoutSeconds)).Ends c t
      (fun _ u => lost .timeout u) fun _ _ => False)
    (h : (Desk.performAny r).Ends c s done lost) : (perform r).Ends c s done lost := by
  have hrethrow : ∀ e t, lost e t → (do
      if e = Failure.timeout then report (.timedOut r.name (← read).settings.timeoutSeconds)
      throw e : Op Answer).Ends c t done lost := by
    intro e t ht
    dsimp only
    split
    next he =>
      subst he
      refine .bind (ends_read.2 (.bind ((hnote t ht).mono (fun _ _ h => h) fun _ _ => False.elim)))
    next => exact ht
  cases ho : r.objection? with
  | some e =>
    rw [perform_refused ho]
    exact ends_throw.2 (hrefused e ho)
  | none =>
    rw [perform_passed ho]
    refine ends_tryCatch.2 (.bind (ends_read.2 ?_))
    split
    next => exact h.mono (fun _ _ h => h) hrethrow
    next ht => exact ends_throw.2 (hrethrow _ _ (hlate ht))

/-- What the service answers, if it answers, is what the desk does. -/
theorem Service.perform_answered {r : Request Argument} {done : Answer → Scene → Prop}
    (h : (Desk.performAny r).Ends c s done fun _ _ => True) :
    (perform r).Ends c s done fun _ _ => True :=
  perform_of_desk (fun _ _ => trivial) (fun _ => trivial) (fun _ _ => .report fun _ => trivial) h

/-- A request that the service lets through ends as it does at the desk, but for a report
    of a time that has run out. -/
theorem Service.perform_passes {r : Request Argument} {done : Answer → Scene → Prop}
    {lost : Failure → Scene → Prop} (hr : ∀ a ∈ r.required, a.2.isBlank = false)
    (ht : hasTime c.settings) (hlog : ∀ e t log, lost e t → lost e { t with log })
    (h : (Desk.performAny r).Ends c s done lost) : (perform r).Ends c s done lost := by
  have ho : r.objection? = none := Request.objection?_eq_none.2 hr
  refine perform_of_desk (fun e he => ?_) (absurd ht) (fun t h => ?_) h
  · rw [ho] at he
    cases he
  · exact .report fun log => hlog _ t log h

namespace Session

variable {s : Session} {x : Step} {r : Request Argument} {done : Answer → Prop}
  {lost : Failure → Prop}

theorem spared_of_fault (h : x.cue.fault = none) : s.Spared x := by
  intro f hf
  rw [h] at hf
  cases hf

/-- How the desk ends under the conditions of the step is how the step ends, but for the
    log. -/
theorem take_of_desk {done : Answer → Scene → Prop} {lost : Failure → Scene → Prop}
    (hx : x.Asks s r) (hlog : ∀ e t log, lost e t → lost e { t with log })
    (h : (Desk.performAny r).Ends (s.conditions x.site.settings.engine x.cue) (s.scene x.cue)
      done lost) :
    (∃ a, (s.take x).1 = .ok (.answer a) ∧ done a (s.take x).2.1) ∨
      ∃ e, (s.take x).1 = .error e ∧ lost e (s.take x).2.1 := by
  have hends : (x.action.work x.site s.serving).Ends (s.conditions x.site.settings.engine x.cue)
      (s.scene x.cue) (fun reply t => ∃ a, reply = .answer a ∧ done a t) lost := by
    cases hx with
    | desk hx =>
      rw [hx]
      exact ends_map.2 (h.mono (fun a _ ha => ⟨a, rfl, ha⟩) fun _ _ h => h)
    | service hx hr ht =>
      rw [hx]
      exact ends_map.2 ((Service.perform_passes hr ht hlog h).mono (fun a _ ha => ⟨a, rfl, ha⟩)
        fun _ _ h => h)
  rcases take_of_ends hends with ⟨_, hr, a, rfl, ha⟩ | he
  · exact .inl ⟨a, hr, ha⟩
  · exact .inr he

/-- What the desk answers under the conditions of the step is what the step yields,
    unless a call goes wrong. -/
theorem take_of_answer (hx : x.Asks s r) (hs : s.Spared x)
    (h : (Desk.performAny r).Ends (s.conditions x.site.settings.engine x.cue) (s.scene x.cue)
      (fun a _ => done a)
      fun e t => lost e ∨ (s.conditions x.site.settings.engine x.cue).Struck e t) :
    (∃ a, (s.take x).1 = .ok (.answer a) ∧ done a) ∨ ∃ e, (s.take x).1 = .error e ∧ lost e := by
  rcases take_of_desk hx (fun _ _ _ h => h) h with ha | ⟨e, hr, he | ⟨f, hf, -, hstrikes⟩⟩
  · exact .inl ha
  · exact .inr ⟨e, hr, he⟩
  · exact absurd hstrikes (hs f hf)

/-- The same for what the desk answers under all conditions. -/
theorem take_of_asks (hx : x.Asks s r) (hs : s.Spared x)
    (h : ∀ c, (Desk.performAny r).Ends c (s.scene x.cue) (fun a _ => done a)
      fun e t => lost e ∨ c.Struck e t) :
    (∃ a, (s.take x).1 = .ok (.answer a) ∧ done a) ∨ ∃ e, (s.take x).1 = .error e ∧ lost e :=
  take_of_answer hx hs (h _)

/-- What cannot be refused is answered, unless a call goes wrong. -/
theorem take_answered (hx : x.Asks s r) (hs : s.Spared x)
    (h : (Desk.performAny r).Ends (s.conditions x.site.settings.engine x.cue) (s.scene x.cue)
      (fun a _ => done a) fun e t => (s.conditions x.site.settings.engine x.cue).Struck e t) :
    ∃ a, (s.take x).1 = .ok (.answer a) ∧ done a := by
  have hends := h.mono (fun _ _ h => h) fun _ _ => Or.inr (a := False)
  exact (take_of_answer hx hs hends).resolve_right fun ⟨_, _, he⟩ => he

/-- Whatever is answered is what the desk answers, and left as the desk leaves it. -/
theorem take_of_makes {done : Answer → Scene → Prop} {reply : Reply} (hx : x.Makes r)
    (h : (Desk.performAny r).Ends (s.conditions x.site.settings.engine x.cue) (s.scene x.cue)
      done fun _ _ => True) (hok : (s.take x).1 = .ok reply) :
    ∃ a, reply = .answer a ∧ done a (s.take x).2.1 := by
  have hends : (x.action.work x.site s.serving).Ends (s.conditions x.site.settings.engine x.cue)
      (s.scene x.cue) (fun reply t => ∃ a, reply = .answer a ∧ done a t) fun _ _ => True := by
    rcases hx with hx | hx
    · rw [hx]
      exact ends_map.2 (h.mono (fun a _ ha => ⟨a, rfl, ha⟩) fun _ _ h => h)
    · rw [hx]
      have hservice := Service.perform_answered h
      exact ends_map.2 (hservice.mono (fun a _ ha => ⟨a, rfl, ha⟩) fun _ _ h => h)
  rcases take_of_ends hends with ⟨_, hreply, ha⟩ | ⟨_, hreply, -⟩
  · obtain rfl := Except.ok.inj (hreply.symm.trans hok)
    exact ha
  · rw [hok] at hreply
    cases hreply

end Session

/-! ## Requests that read -/

/-- A limit that fits 64 bits is kept. -/
theorem Op.limited_eq_pure {α : Type} {n : Int} {l : List α} (h : Moment.isWord n = true) :
    limited (some n) l = pure (if n < 0 then l else l.take n.toNat) := by
  simp only [Moment.isWord, Bool.and_eq_true, decide_eq_true_eq] at h
  exact if_neg (by omega)

/-- It lists as many entries. -/
theorem Op.limited_natCast {α : Type} {n : Nat} {l : List α} (h : n ≤ 9223372036854775807) :
    limited (some n) l = pure (l.take n) := by
  have hword : Moment.isWord n = true := by
    simp [Moment.isWord]
    omega
  rw [limited_eq_pure hword, if_neg (by omega), Int.toNat_natCast]

/-- All counts over all assignments and pull requests. -/
def Store.overview (s : Store) : Overview where
  byUser := Desk.byKey (s.countsByReviewer {})
  byPull := Desk.byKey s.countsByPull
  byStatus := ascendingBy (·.1.name) (s.countsByStatus {})
  byTeam := Desk.byKey (s.countsByTeam {})

namespace Desk

/-- A team that is there is shown with its members. -/
theorem showTeam_answer {t : Team} (ht : s.store.team? t.name = some t) :
    (performAny (.showTeam (.text t.name))).Ends c s
      (fun a _ => a = .team ⟨t.name, (s.store.members t.name).map User.member⟩)
      fun e t => c.Struck e t := by
  refine ends_map.2 (.unitOfWork (fun _ => .bind (.query (fun _ => ?_) fun _ _ h _ => h))
    fun _ _ h _ => h)
  rw [ht]
  exact .bind (.query (fun _ => ends_pure.2 rfl) fun _ _ h _ => h)

theorem overview_answer : (performAny .overview).Ends c s
    (fun a _ => a = .overview s.store.overview) fun e t => c.Struck e t := by
  refine ends_map.2 (.bind (.unitOfWork (fun _ => .bind (.bind (.query (fun _ => ends_pure.2 ?_)
    fun _ _ h _ => h))) fun _ _ h _ => h))
  refine .bind (.query (fun _ => .bind (.query (fun _ => .bind (.query (fun _ => ?_)
    fun _ _ h _ => h)) fun _ _ h _ => h)) fun _ _ h _ => h)
  exact ends_pure.2 (ends_pure.2 rfl)

/-- The counts within a filter, if its limit is one that the store takes. -/
theorem summary_answer {f : SummaryFilter} {limit : Nat}
    (hl : limitOr c.settings.defaultLimit f.limit = limit) (hfit : limit ≤ 9223372036854775807) :
    (performAny (.summary f)).Ends c s
      (fun a _ => a = .summary ⟨(s.store.countsByReviewer f.window).take limit,
        s.store.countsByStatus f.window, s.store.countsByTeam f.window⟩)
      fun e t => c.Struck e t := by
  refine ends_map.2 (.unitOfWork (fun _ => .bind (ends_read.2 (.bind (.bind (.query (fun _ => ?_)
    fun _ _ h _ => h))))) fun _ _ h _ => h)
  rw [hl, limited_natCast hfit]
  refine ends_pure.2 (.bind (.query (fun _ => .bind (.query (fun _ => ends_pure.2 rfl)
    fun _ _ h _ => h)) fun _ _ h _ => h))

end Desk

theorem Session.take_overview {s : Session} {x : Step} (hx : x.Asks s .overview)
    (hs : s.Spared x) : (s.take x).1 = .ok (.answer (.overview s.store.overview)) := by
  obtain ⟨_, hreply, rfl⟩ := take_answered hx hs Desk.overview_answer
  exact hreply

end ReviewRota
