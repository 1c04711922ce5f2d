/-
  ReviewRota — failures told as they are.

  A call may go wrong in any query of any operation, and a draw may fail in any pick.
  Whoever asked is told of it: no operation goes on as if nothing had been, and none takes
  the failure for a refusal of its own, but for a key that is taken and a generator that
  has no randomness to give.  The web application gives each failure its status.

  * `StoreFailure.NamesDuplicate` and `StoreFailure.Passes`: the reports of a duplicate
    key, and those after which the same call may succeed;
  * `Fault.told`: what a caller is told of a fault, and `Conditions.Tells`: that all that
    went wrong between two scenes is told of;
  * `Op.Candid`: an operation that fails so, and `Plain.candid`: plain operations do;
  * `Session.failures_told`: a step in which a call goes wrong or a draw fails.
-/
import ReviewRota.Proofs.Gateway

namespace ReviewRota

variable {α β : Type} {c : Conditions} {s t u : Scene}

/-! ## Reports of the store -/

theorem occursIn_iff {piece l : List Char} : occursIn piece l = true ↔ piece <:+: l := by
  induction l with
  | nil => simp [occursIn]
  | cons c l ih => simp [occursIn, List.infix_cons_iff, ih]

namespace StoreFailure

variable {f : StoreFailure}

/-- The report carries the code of a violated unique key, or one of the phrases for it. -/
def NamesDuplicate (f : StoreFailure) : Prop :=
  f.sqlstate = some (.text "23505") ∨ f.pgcode = some (.text "23505") ∨
    "UNIQUE constraint failed".toList <:+: f.text.toList ∨
    "duplicate key value".toList <:+: f.text.toList

/-- The same call may succeed later: no constraint is violated, and the failure is one of
    the operation or of the connection, or the connection is lost, or the code says so. -/
def Passes (f : StoreFailure) : Prop :=
  f.family ≠ .integrity ∧ (f.family = .operational ∨ f.family = .connection ∨
    f.invalidated = true ∨
    ∃ code ∈ f.code, code ∈ ["40001", "40P01", "55P03", "57014", "57P01"] ∨
      "08".toList <+: code.toList)

theorem isUniqueViolation_iff : f.isUniqueViolation = true ↔ f.NamesDuplicate := by
  simp [isUniqueViolation, NamesDuplicate, uniqueViolation, holdsText, occursIn_iff, or_assoc]

theorem isTransient_iff : f.isTransient = true ↔ f.Passes := by
  unfold isTransient Passes passingCodes
  cases f.code <;> simp [or_assoc]

end StoreFailure

/-- A new row has the key of another one. -/
def Failure.TakenKey (e : Failure) : Prop :=
  ∃ f, e = .store f ∧ f.family = .integrity ∧ f.NamesDuplicate

theorem Failure.isDuplicate_iff {e : Failure} : e.isDuplicate = true ↔ e.TakenKey := by
  cases e <;> simp [isDuplicate, TakenKey, StoreFailure.isUniqueViolation_iff]

/-! ## What is told -/

/-- What a caller is told of a fault: its failure, or that a key is taken. -/
def Fault.told (f : Fault) : Failure :=
  match f.call.taken? with
  | some cause => if f.failure.isDuplicate then .refused ⟨cause, ""⟩ else f.failure
  | none => f.failure

/-- The draws that have been taken, with what holds of those that failed. -/
def Generator.Spent (g h : Generator) (P : Failure → Prop) : Prop :=
  ∃ used, g.draws = used ++ h.draws ∧ ∀ e, Draw.failure e ∈ used → P e

/-- All that went wrong from the one scene to the other is told of as `P` says. -/
structure Conditions.Tells (c : Conditions) (s t : Scene) (P : Failure → Prop) : Prop where
  struck : ∀ f ∈ c.fault, f.Strikes t.calls → f.Strikes s.calls ∨ P f.told
  drawn : s.generator.Spent t.generator fun e => P (Drawing.report e)

namespace Generator.Spent

variable {g h k : Generator} {P Q : Failure → Prop}

theorem refl : g.Spent g P := ⟨[], rfl, nofun⟩

theorem mono (hgh : g.Spent h P) (hPQ : ∀ e, P e → Q e) : g.Spent h Q := by
  obtain ⟨used, hu, hP⟩ := hgh
  exact ⟨used, hu, fun e he => hPQ e (hP e he)⟩

theorem trans (hgh : g.Spent h P) (hhk : h.Spent k P) : g.Spent k P := by
  obtain ⟨used, hu, hP⟩ := hgh
  obtain ⟨used', hu', hP'⟩ := hhk
  refine ⟨used ++ used', by rw [hu, hu', List.append_assoc], fun e he => ?_⟩
  rcases List.mem_append.1 he with he | he
  · exact hP e he
  · exact hP' e he

end Generator.Spent

namespace Conditions.Tells

variable {P Q : Failure → Prop}

theorem of_beside (h : s.Beside t) : c.Tells s t P := by
  obtain ⟨hcalls, hgenerator⟩ := h
  exact ⟨fun f _ hf => .inl (hcalls ▸ hf), hgenerator ▸ .refl⟩

theorem mono (h : c.Tells s t P) (hPQ : ∀ e, P e → Q e) : c.Tells s t Q :=
  ⟨fun f hf hs => (h.struck f hf hs).imp id (hPQ _), h.drawn.mono fun _ => hPQ _⟩

theorem trans (h : c.Tells s t P) (h' : c.Tells t u P) : c.Tells s u P := by
  refine ⟨fun f hf hs => ?_, h.drawn.trans h'.drawn⟩
  rcases h'.struck f hf hs with hs | hP
  · exact h.struck f hf hs
  · exact .inr hP

/-- Nothing has gone wrong up to a scene, and then what is told of. -/
theorem before (h : c.Tells s t fun _ => False) (h' : c.Tells t u P) : c.Tells s u P :=
  (h.mono fun _ => False.elim).trans h'

end Conditions.Tells

/-! ## Draws -/

namespace Drawing

variable {g : Generator} {k : Nat} {pool : List String}

theorem next_spent : next.Ends g (fun _ t => g.Spent t fun _ => False)
    fun e t => g.Spent t (· = e) := by
  rcases g with ⟨_ | ⟨n | e, draws⟩, taken⟩
  · exact .refl
  · exact ⟨[.index n], rfl, by simp⟩
  · exact ⟨[.failure e], rfl, by simp⟩

theorem pick_spent : (pick k pool).Ends g (fun _ t => g.Spent t fun _ => False)
    fun e t => g.Spent t (· = e) := by
  induction k generalizing pool g with
  | zero => exact .refl
  | succ k ih =>
    refine ends_bind.2 (next_spent.mono (fun n t ht => ?_) fun _ _ h => h)
    refine ends_bind.2 (ih.mono (fun _ u hu => ?_) fun e u hu => ?_)
    · exact ends_pure.2 (ht.trans hu)
    · exact (ht.mono fun _ => False.elim).trans hu

/-- A sample fails as the first draw that fails is reported. -/
theorem sample_spent {k : Int} : (sample pool k).Ends g (fun _ t => g.Spent t fun _ => False)
    fun e t => g.Spent t fun e' => report e' = e := by
  refine ends_tryCatch.2 (pick_spent.mono (fun _ _ h => h) fun e t ht => ?_)
  exact ht.mono fun e' he => congrArg report he

theorem choice_spent : (choice pool).Ends g (fun _ t => g.Spent t fun _ => False)
    fun e t => g.Spent t fun e' => report e' = e :=
  ends_bind.2 (sample_spent.mono (fun _ _ h => ends_pure.2 h) fun _ _ h => h)

end Drawing

/-! ## Candid operations -/

namespace Op

/-- Whatever goes wrong in the operation, it fails with what is told of that. -/
def Candid (op : Op α) : Prop :=
  ∀ c s, op.Ends c s (fun _ t => c.Tells s t fun _ => False) fun e t => c.Tells s t (· = e)

/-- A call that is reached goes wrong if it is the one, and then it is the one. -/
theorem Ends.reached {call : StoreCall} {done : Unit → Scene → Prop}
    {lost : Failure → Scene → Prop}
    (hd : ∀ t, t.generator = s.generator →
      (∀ f ∈ c.fault, f.Strikes t.calls → f.Strikes s.calls) → done () t)
    (hl : ∀ f t, c.fault = some f → f.call = call → t.generator = s.generator →
      lost f.failure t) :
    (Op.reach call).Ends c s done lost := by
  unfold Ends
  rw [outcome_reach]
  cases hf : c.fault with
  | none => exact hd _ rfl fun f h => by rw [hf] at h; cases h
  | some f =>
    dsimp only
    by_cases h : f.call = call ∧ f.nth = (s.calls ++ [call]).count call
    · rw [if_pos h]
      exact hl f _ hf h.1 rfl
    · rw [if_neg h]
      refine hd _ rfl fun g hg hstrikes => ?_
      rw [hf] at hg
      obtain rfl := Option.some.inj hg
      -- one call more, and it is not the one that goes wrong
      obtain ⟨hpos, hle⟩ := hstrikes
      refine ⟨hpos, ?_⟩
      by_cases hcall : f.call = call
      · have hne : f.nth ≠ (s.calls ++ [call]).count call := fun hn => h ⟨hcall, hn⟩
        subst hcall
        rw [List.count_append, List.count_singleton_self] at hne hle
        omega
      · have hcount : [call].count f.call = 0 := by
          simp [List.count_eq_zero, hcall]
        rwa [List.count_append, hcount] at hle

namespace Candid

variable {x : Op α} {f : α → Op β}

theorem pure (a : α) : (pure a : Op α).Candid := fun _ _ => .of_beside ⟨rfl, rfl⟩

theorem throw (e : Failure) : (throw e : Op α).Candid := fun _ _ => .of_beside ⟨rfl, rfl⟩

theorem reach {call : StoreCall} (h : call.taken? = none) : (Op.reach call).Candid := by
  intro c s
  refine .reached (fun t hg hs => ⟨fun f hf h => .inl (hs f hf h), hg ▸ .refl⟩) ?_
  intro f t hf hcall hg
  refine ⟨fun g hg _ => .inr ?_, hg ▸ .refl⟩
  rw [hf] at hg
  obtain rfl := Option.some.inj hg
  rw [Fault.told, hcall, h]

theorem drawing {work : Drawing α} (h : ∀ g, work.Ends g (fun _ t => g.Spent t fun _ => False)
      fun e t => g.Spent t fun e' => Drawing.report e' = e) : (Op.drawing work).Candid := by
  intro c s
  exact .drawing ((h s.generator).mono (fun _ _ hg => ⟨fun _ _ hf => .inl hf, hg⟩)
    fun _ _ hg => ⟨fun _ _ hf => .inl hf, hg⟩)

theorem bind (hx : x.Candid) (hf : ∀ a, (f a).Candid) : (x >>= f).Candid := by
  intro c s
  refine ends_bind.2 ((hx c s).mono (fun a t ht => ?_) fun _ _ h => h)
  exact (hf a c t).mono (fun _ _ h => ht.before h) fun _ _ h => ht.before h

theorem map (g : α → β) (hx : x.Candid) : (g <$> x).Candid := fun c s => ends_map.2 (hx c s)

/-- What is told inside is told outside, where nothing else is told. -/
theorem rethrow {h : Failure → Op α} (hx : x.Candid) (hh : ∀ e, (h e).Candid)
    (hr : Rethrows h) : (tryCatch x h).Candid := by
  intro c s
  refine ends_tryCatch.2 ((hx c s).mono (fun _ _ h => h) fun e t ht => ?_)
  rw [ends_iff]
  constructor
  · intro a u ho
    exact ((hr e c t).ok ho).elim
  · intro e' u ho
    obtain rfl := (hr e c t).error ho
    exact ht.trans ((hh e' c t).error ho)

/-- A new row is stored by its first call, whose failure is told or stands for a key
    that is taken. -/
theorem unlessTaken {call : StoreCall} {cause : Cause} {note : Op Unit} {f : Unit → Op α}
    (h : call.taken? = some cause) (hn : note = Pure.pure () ∨ ∃ e, note = report e)
    (hf : ∀ u, (f u).Still) : (Op.unlessTaken cause note (Op.reach call >>= f)).Candid := by
  have hnote : ∀ c (s : Scene), note.Ends c s (fun _ t => s.Beside t) fun _ _ => False := by
    rcases hn with rfl | ⟨e, -, rfl⟩
    · exact fun _ _ => ⟨rfl, rfl⟩
    · exact fun _ _ => .report fun _ => ⟨rfl, rfl⟩
  intro c s
  refine ends_unlessTaken.2 (.bind (.reached (fun t hg hs => ?_) fun g t hg hcall hgen => ?_))
  · have hst : ∀ {u} {P : Failure → Prop}, t.Beside u → c.Tells s u P := by
      rintro u P ⟨hcalls, hgen⟩
      refine ⟨fun g hg hstrikes => .inl (hs g hg (hcalls ▸ hstrikes)), ?_⟩
      rw [hgen, hg]
      exact .refl
    refine (hf () c t).mono (fun _ u hu => hst hu) fun e u hu => ?_
    split
    · refine (hnote c u).mono (fun _ v hv => hst ?_) fun _ _ => False.elim
      exact ⟨hv.1.trans hu.1, hv.2.trans hu.2⟩
    · exact hst hu
  · have htold : ∀ {u e}, u.generator = t.generator → g.told = e → c.Tells s u (· = e) := by
      intro u e hu he
      refine ⟨fun g' hg' _ => .inr ?_, ?_⟩
      · rw [hg] at hg'
        exact Option.some.inj hg' ▸ he
      · rw [hu, hgen]
        exact .refl
    rw [Fault.told, hcall, h] at htold
    split
    next hd => exact (hnote c t).mono (fun _ u hu => htold hu.2 (if_pos hd)) fun _ _ => False.elim
    next hd => exact htold rfl (if_neg hd)

end Candid

/-- **Plain operations are candid.** -/
theorem Plain.candid {op : Op α} (h : op.Plain) : op.Candid := by
  induction h with
  | pure a => exact .pure a
  | throw e => exact .throw e
  | report => exact fun _ _ => .report fun _ => .of_beside ⟨rfl, rfl⟩
  | reading _ _ ih => exact fun c s => ends_bind.2 (ends_read.2 (ih c c s))
  | getting _ _ ih => exact fun c s => ends_bind.2 (ends_get.2 (ih s c s))
  | modify h => exact fun _ s => .of_beside (h s).1
  | reach h => exact .reach h
  | sample => exact .drawing fun _ => Drawing.sample_spent
  | choice => exact .drawing fun _ => Drawing.choice_spent
  | bind _ _ ihx ihf => exact ihx.bind ihf
  | rethrow _ _ hr ihx ihh => exact ihx.rethrow ihh hr
  | unlessTaken h hn _ hf _ => exact .unlessTaken h (hn.imp_right fun ⟨e, _, he⟩ => ⟨e, he⟩) hf

end Op

/-! ## Steps -/

/-- The generator had no randomness to give: it failed as the system fails that should
    give it, or as one that cannot. -/
def Failure.LacksEntropy (e : Failure) : Prop :=
  (∃ reason, e = .system reason) ∨ (∃ reason, e = .unsupported reason) ∨ e = .timeout

/-- The failure is told as that of a key which is taken. -/
def Fault.OnTakenKey (f : Fault) : Prop :=
  f.failure.TakenKey ∧ (f.call = .addTeam ∨ f.call = .addPull)

theorem Drawing.report_of_lacks {e : Failure} (h : e.LacksEntropy) :
    report e = .refused (.noEntropy e.text) := by
  rcases h with ⟨reason, rfl⟩ | ⟨reason, rfl⟩ | rfl <;> rfl

theorem Drawing.report_of_not_lacks {e : Failure} (h : ¬ e.LacksEntropy) : report e = e := by
  unfold report
  split
  · exact absurd (.inl ⟨_, rfl⟩) h
  · exact absurd (.inr (.inl ⟨_, rfl⟩)) h
  · exact absurd (.inr (.inr rfl)) h
  · rfl

theorem Fault.told_of_taken {f : Fault} {cause : Cause} (hc : f.call.taken? = some cause)
    (h : f.failure.TakenKey) : f.told = .refused ⟨cause, ""⟩ := by
  rw [told, hc]
  exact if_pos (Failure.isDuplicate_iff.2 h)

theorem Fault.told_of_not {f : Fault} (h : ¬ f.OnTakenKey) : f.told = f.failure := by
  unfold told
  split
  next cause hc =>
    refine if_neg fun hd => h ⟨Failure.isDuplicate_iff.1 hd, ?_⟩
    unfold StoreCall.taken? at hc
    split at hc
    next hcall => exact .inl hcall
    next hcall => exact .inr hcall
    next => cases hc
  next => rfl

namespace Session

open Op

variable {s : Session} {x : Step}

/-- What a step tells of what went wrong in it. -/
theorem tells_of_scene {P : Failure → Prop}
    (h : (s.conditions x.site.settings.engine x.cue).Tells (s.scene x.cue) (s.take x).2.1 P) :
    (∀ f ∈ x.cue.fault, f.Strikes (s.take x).2.1.calls → P f.told) ∧
      ∃ used, (s.arranged x.cue).draws = used ++ (s.next x).draws ∧
        ∀ e, Draw.failure e ∈ used → P (Drawing.report e) := by
  refine ⟨fun f hf hstrikes => ?_, h.drawn⟩
  rcases h.struck f hf hstrikes with ⟨hpos, hle⟩ | hP
  · change f.nth ≤ (List.count f.call [] : Nat) at hle
    rw [List.count_nil] at hle
    omega
  · exact hP

/-- A step that asks the service fails with what is told of all that went wrong in it. -/
theorem take_service {r : Request Argument} (hx : x.action = .service r) :
    (∀ f ∈ x.cue.fault, f.Strikes (s.take x).2.1.calls → (s.take x).1 = .error f.told) ∧
      ∃ used, (s.arranged x.cue).draws = used ++ (s.next x).draws ∧
        ∀ e, Draw.failure e ∈ used → (s.take x).1 = .error (Drawing.report e) := by
  have hwork : (x.action.work x.site s.serving).Candid := by
    rw [hx]
    exact Service.perform_plain.candid.map _
  refine tells_of_scene (P := fun e => (s.take x).1 = .error e) ?_
  rcases take_of_ends (hwork _ _) with ⟨a, -, ht⟩ | ⟨e, he, ht⟩
  · exact ht.mono fun _ => False.elim
  · exact ht.mono fun e' he' => he' ▸ he

/-- A request from outside that calls the service is answered as what went wrong in it. -/
theorem take_web_told {r : Http.Incoming} {call : Http.Call} (hx : x.action = .web r)
    (hr : r.call? x.site.settings.web.corsOrigins = some call) :
    ∃ a, (s.take x).1 = .ok (.response a) ∧
      ∀ f ∈ x.cue.fault, f.Strikes (s.take x).2.1.calls → a.Like (Http.replyTo f.told) := by
  obtain ⟨-, -, hcalls, u, a, hyields, ha, hlike⟩ := take_web (s := s) hx hr
  refine ⟨a, ha, fun f hf hstrikes => ?_⟩
  rw [hcalls] at hstrikes
  have htold : (s.take (x.asking call.request)).1 = .error f.told :=
    (take_service rfl).1 f hf hstrikes
  rw [htold] at hyields
  cases u with
  | ok => cases hyields
  | error e =>
    cases hyields
    exact hlike

/-- **Failures are told as they are.**  If a call of a request to the service goes wrong,
    the request fails with the failure of that call, except that a duplicate key of a new
    team or pull request is a refusal which says so.  If a draw fails, it fails with the
    failure of the draw, or for want of randomness.  A web client is told of a failure of
    the store by the status: 503 if the same request may succeed later, and 500 if not. -/
theorem failures_told (s : Session) (x : Step) :
    (∀ r, x.action = .service r →
      (∀ f ∈ x.cue.fault, f.Strikes (s.take x).2.1.calls →
        (f.failure.TakenKey → f.call = .addTeam →
          (s.take x).1 = .error (.refused ⟨.teamExists, ""⟩)) ∧
        (f.failure.TakenKey → f.call = .addPull →
          (s.take x).1 = .error (.refused ⟨.pullExists, ""⟩)) ∧
        (¬ f.OnTakenKey → (s.take x).1 = .error f.failure)) ∧
      ∃ used, (s.arranged x.cue).draws = used ++ (s.next x).draws ∧
        ∀ e, Draw.failure e ∈ used →
          (e.LacksEntropy → (s.take x).1 = .error (.refused (.noEntropy e.text))) ∧
          (¬ e.LacksEntropy → (s.take x).1 = .error e)) ∧
    ∀ r, x.action = .web r → (r.call? x.site.settings.web.corsOrigins).isSome →
      ∃ a, (s.take x).1 = .ok (.response a) ∧
        ∀ f ∈ x.cue.fault, f.Strikes (s.take x).2.1.calls → ¬ f.OnTakenKey →
          (∀ report, f.failure = .store report →
            (report.Passes → a.status = 503) ∧ (¬ report.Passes → a.status = 500)) ∧
          (f.failure = .timeout → a.status = 504) ∧
          ∀ text, f.failure = .system text ∨ f.failure = .runtime text → a.status = 500 := by
  constructor
  · intro r hx
    obtain ⟨hfault, used, hused, hdraw⟩ := take_service (s := s) hx
    refine ⟨fun f hf hstrikes => ⟨fun hkey hcall => ?_, fun hkey hcall => ?_, fun hkey => ?_⟩,
      used, hused, fun e he => ⟨fun hl => ?_, fun hl => ?_⟩⟩
    · rw [hfault f hf hstrikes, Fault.told_of_taken (by rw [hcall]; rfl) hkey]
    · rw [hfault f hf hstrikes, Fault.told_of_taken (by rw [hcall]; rfl) hkey]
    · rw [hfault f hf hstrikes, Fault.told_of_not hkey]
    · rw [hdraw e he, Drawing.report_of_lacks hl]
    · rw [hdraw e he, Drawing.report_of_not_lacks hl]
  · intro r hx hr
    obtain ⟨call, hcall⟩ := Option.isSome_iff_exists.1 hr
    obtain ⟨a, ha, hlike⟩ := take_web_told (s := s) hx hcall
    refine ⟨a, ha, fun f hf hstrikes hkey => ?_⟩
    have hs : a.status = (Http.replyTo f.failure).status := by
      rw [← Fault.told_of_not hkey]
      exact (hlike f hf hstrikes).status
    refine ⟨fun report he => ⟨fun hp => ?_, fun hp => ?_⟩, fun he => ?_, fun text he => ?_⟩
    · rw [hs, he, Http.replyTo, if_pos (StoreFailure.isTransient_iff.2 hp)]
      rfl
    · rw [hs, he, Http.replyTo, if_neg fun ht => hp (StoreFailure.isTransient_iff.1 ht)]
      rfl
    · rw [hs, he]
      rfl
    · rcases he with he | he <;> rw [hs, he] <;> rfl

/-- A step in which the first of some calls fails. -/
def lapse (call : StoreCall) (e : Failure) (a : Action) : Step :=
  { cue := { fault := some ⟨call, 1, .fail e⟩ }, action := a }

theorem failures_told_lapse :
    let x := lapse .addTeam (.store (.duplicateKey "teams.name"))
      (.service (.createTeam (.text "core") []))
    let y := lapse .countByTeam (.store { family := .driver, sqlstate := some (.text "08006") })
      (.web { method := "GET", target := { path := "/stats" } })
    let z : Step := { cue := { draws := some [.failure (.system "no device")] }
                      action := .service (.openPull (.text "p2") (.text "Title") (.text "ann")) }
    (blank.take x).1 = .error (.refused ⟨.teamExists, ""⟩) ∧
      (∃ a, (blank.take y).1 = .ok (.response a) ∧ a.status = 503) ∧
      ((blank.along opening).take z).1 = .error (.refused (.noEntropy "no device")) := by
  intro x y z
  refine ⟨?_, ?_, ?_⟩
  · have hkey : (Failure.store (.duplicateKey "teams.name")).TakenKey :=
      Failure.isDuplicate_iff.1 (by decide +kernel)
    exact ((((failures_told blank x).1 _ rfl).1 _ rfl (by decide +kernel)).1 hkey rfl)
  · obtain ⟨a, ha, h⟩ := (failures_told blank y).2 _ rfl (by decide +kernel)
    refine ⟨a, ha, ((h _ rfl (by decide +kernel) ?_).1 _ rfl).1 ?_⟩
    · rintro ⟨-, h | h⟩ <;> cases h
    · exact StoreFailure.isTransient_iff.1 (by decide +kernel)
  · obtain ⟨used, hused, h⟩ := ((failures_told (blank.along opening) z).1 _ rfl).2
    have hrest : ((blank.along opening).next z).draws = [] := by decide +kernel
    rw [hrest, List.append_nil] at hused
    refine (h (.system "no device") ?_).1 (.inl ⟨_, rfl⟩)
    rw [← hused]
    exact List.mem_singleton_self _

end Session

end ReviewRota
