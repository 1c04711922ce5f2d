/-
  ReviewRota — a team switched off from outside.

  The route that switches off a team leaves out the blanks around the name that it is
  given; no other way to the desk does so.  It does what the service does for the name
  that is left, so that a name without blanks around it reaches the team of that name.  A
  team whose name has such blanks can be set up and shown from outside, but not switched
  off, and a request for it switches off another team if there is one of the name that is
  left.

  * `Text.allBlank_trim`: something is left of every text that holds more than blanks;
  * `Http.Incoming.Deactivates`: a request from outside that names a team, and
    `Deactivates.call?`: the call that is read from it;
  * `Store.SwitchedOff`: nobody in a team is active, and all others are as they were;
  * `Session.Reachable.deactivated_outside`: what such a request does, and
    `Session.deactivated_outside_blank`: that it can miss the team.
-/
import ReviewRota.Proofs.Answers
import ReviewRota.Proofs.Gateway

namespace ReviewRota

/-! ## Trimmed texts -/

namespace Text

/-- The last character that is left is none of the class. -/
theorem exists_mem_trimEnds {p : Char → Bool} {cs : List Char} (h : trimEnds p cs ≠ []) :
    ∃ c ∈ trimEnds p cs, p c = false := by
  unfold trimEnds at h ⊢
  rw [Ne, List.reverse_eq_nil_iff] at h
  refine ⟨_, List.mem_reverse.2 (List.head_mem h), ?_⟩
  simpa using List.head_dropWhile_not p h

theorem allBlank_trim {s : String} : allBlank (trim s) = allBlank s := by
  rw [Bool.eq_iff_iff, ← trim_eq_empty_iff s]
  constructor
  · intro h
    rw [allBlank, trim, String.toList_ofList, List.all_eq_true] at h
    by_contra hne
    have hleft : trimEnds isBlank s.toList ≠ [] := by
      intro hnil
      rw [trim, hnil] at hne
      exact hne rfl
    obtain ⟨c, hc, hp⟩ := exists_mem_trimEnds hleft
    rw [h c hc] at hp
    cases hp
  · intro h
    rw [h]
    rfl

end Text

/-! ## The request -/

namespace Http

variable {r : Incoming} {name : String} {origins : List String}

/-- The text under a name in the table of a body. -/
def Body.textAt? (field : String) : Body → Option String
  | .document (.table fs) =>
    match Fields.get? fs field with
    | some (.text s) => some s
    | _ => none
  | _ => none

theorem Body.textAt?_eq_some {field : String} {body : Body} (h : body.textAt? field = some name) :
    ∃ fs, body = .document (.table fs) ∧ Fields.get? fs field = some (.text name) := by
  unfold textAt? at h
  split at h
  next fs =>
    split at h
    next hget => exact ⟨fs, rfl, by rw [hget, Option.some.inj h]⟩
    next => cases h
  next => cases h

/-- A request from outside to switch off the team of the name. -/
structure Incoming.Deactivates (r : Incoming) (name : String) : Prop where
  method : r.method = "POST"
  path : r.target.path = "/team/deactivate"
  body : (readBody r).textAt? "team_name" = some name

/-- The call that switches off the team of a name, and binds the name to the log. -/
def Call.switchingOff (name : String) : Call :=
  ⟨.deactivateTeam (.text name), [("team_name", .text name)], 200, answerDatum⟩

/-- The blanks around the name that a request gives are left out of the call. -/
theorem Incoming.Deactivates.call? (h : r.Deactivates name) :
    r.call? origins = some (.switchingOff (Text.trim name)) := by
  obtain ⟨hmethod, hpath, hname⟩ := h
  obtain ⟨fs, hbody, hname⟩ := Body.textAt?_eq_some hname
  have hpreflight : Cors.preflight? origins r = none := by
    unfold Cors.preflight?
    cases r.header? "origin" <;> cases r.header? "access-control-request-method" <;>
      simp [hmethod]
  have hroute : resolve r.method r.target.path = .taken .deactivateTeam := by
    rw [hmethod, hpath]
    decide +kernel
  unfold Incoming.call? Route.read?
  rw [hpreflight, hroute]
  simp only [Route.call?, hbody, Body.form, deactivateTeamCall, Fields.read, hname]
  rfl

end Http

/-! ## The service -/

namespace Store

variable {s t : Store} {team : String} {now : Moment}

/-- Nobody in the team is active, and everybody else is as before. -/
structure SwitchedOff (team : String) (s t : Store) : Prop where
  inside : ∀ u ∈ t.users, u.team = team → u.active = false
  outside : ∀ u ∈ s.users, u.team ≠ team → u ∈ t.users

theorem switchedOff_of_users (h : t.users = (s.switchOff team now).users) :
    SwitchedOff team s t := by
  rw [switchOff_users] at h
  constructor
  · intro u hu hteam
    rw [h] at hu
    obtain ⟨v, -, rfl⟩ := List.mem_map.1 hu
    rw [User.switchedOff_team] at hteam
    rw [← Bool.not_eq_true, User.switchedOff_active]
    exact fun hv => hv.2 hteam
  · intro u hu hteam
    rw [h]
    exact List.mem_map.2 ⟨u, hu, if_neg fun hv => hteam hv.1⟩

end Store

open Op

/-- A team that is not there is not switched off. -/
theorem Desk.deactivateTeam_unknown {c : Conditions} {s : Scene} {team : String}
    (h : s.store.team? team = none) : (deactivateTeam team).Ends c s (fun _ _ => False)
      fun e t => t.store = s.store ∧ (c.Calm s → e = .refused ⟨.teamUnknown, ""⟩) := by
  refine .bind (.unitOfWork (fun _ => .bind (.query (fun _ => ?_)
    fun _ _ hf _ => ⟨rfl, fun hc => absurd hc hf.not_calm⟩))
    fun _ _ hf ht => ⟨ht, fun hc => absurd hc hf.not_calm⟩)
  rw [show ({ s with calls := _ } : Scene).store.team? team = none from h]
  exact ends_refuse.2 ⟨rfl, fun _ => rfl⟩

/-- The step is made in time, no call of it goes wrong, and its draws do not fail. -/
structure Session.Untroubled (s : Session) (x : Step) : Prop where
  time : Service.hasTime (s.conditions x.site.settings.engine x.cue).settings
  calm : (s.conditions x.site.settings.engine x.cue).Calm (s.scene x.cue)

namespace Session

variable {engine : Settings.Engine} {s : Session} {x : Step} {r : Http.Incoming} {name : String}

/-- A step that arranges nothing is not troubled while no draw fails. -/
theorem untroubled_of_cue (hx : x.cue = {}) (hd : Draw.NeverFail s.draws)
    (ht : Service.hasTime x.site.settings.engine) : s.Untroubled x := by
  obtain ⟨site, cue, action⟩ := x
  obtain rfl : cue = {} := hx
  exact ⟨ht, rfl, hd⟩

/-- If no draws are given, none fails. -/
theorem untroubled_of_draws (hx : x.cue = {}) (hd : s.draws = [])
    (ht : Service.hasTime x.site.settings.engine) : s.Untroubled x := by
  refine untroubled_of_cue hx ?_ ht
  rw [hd]
  exact nofun

/-- What the service does of a request to switch off a team. -/
theorem next_switchedOff (hs : s.store.Sound) (hx : s.Untroubled x)
    (hname : Text.allBlank name = false) :
    let y := x.asking (.deactivateTeam (.text name))
    ((s.store.team? name).isSome → (∃ d, (s.take y).1 = .ok (.answer (.deactivation d))) ∧
      Store.SwitchedOff name s.store (s.next y).store) ∧
    (s.store.team? name = none → (s.take y).1 = .error (.refused ⟨.teamUnknown, ""⟩) ∧
      (s.next y).store = s.store) := by
  intro y
  obtain ⟨htime, hcalm⟩ := hx
  have hfilled : ∀ a ∈ (Request.deactivateTeam (.text name)).required, a.2.isBlank = false := by
    intro a ha
    rw [List.mem_singleton.1 ha]
    exact hname
  refine ⟨fun hteam => ?_, fun hteam => ?_⟩
  · have hends : (y.action.work y.site s.serving).Ends
        (s.conditions x.site.settings.engine x.cue) (s.scene x.cue)
        (fun reply t => (∃ d, reply = .answer (.deactivation d)) ∧
          Store.SwitchedOff name s.store t.store) fun _ _ => False := by
      refine ends_map.2 (Service.perform_passes hfilled htime (fun _ _ _ h => h) (ends_map.2 ?_))
      refine (Desk.deactivateTeam_ends (s := s.scene x.cue) hs).mono (fun d t h => ?_)
        fun e t h => ?_
      · obtain ⟨-, -, hc, -⟩ := h
        exact ⟨⟨d, rfl⟩, Store.switchedOff_of_users hc.run.users_eq⟩
      · rw [show s.store.team? name = none from h.2 hcalm] at hteam
        cases hteam
    rcases take_of_ends hends with ⟨_, hr, ⟨d, rfl⟩, hoff⟩ | ⟨_, -, h⟩
    · exact ⟨⟨d, hr⟩, hoff⟩
    · exact h.elim
  · have hends : (y.action.work y.site s.serving).Ends
        (s.conditions x.site.settings.engine x.cue) (s.scene x.cue) (fun _ _ => False)
        fun e t => e = .refused ⟨.teamUnknown, ""⟩ ∧ t.store = s.store := by
      refine ends_map.2 (Service.perform_passes hfilled htime (fun _ _ _ h => h) (ends_map.2 ?_))
      refine (Desk.deactivateTeam_unknown (s := s.scene x.cue) hteam).mono (fun _ _ h => h)
        fun e t h => ?_
      exact ⟨h.2 hcalm, h.1⟩
    rcases take_of_ends hends with ⟨_, -, h⟩ | ⟨e, hr, rfl, hstore⟩
    · exact h.elim
    · exact ⟨hr, hstore⟩

/-- **A team switched off from outside.**  The request does what the service does for the
    name without the blanks around it: the store that is left is the same.  If there is a
    team of that name, the answer holds the same counts, nobody in it is active any more,
    and nobody outside it is touched.  If there is none, nothing has happened. -/
theorem Reachable.deactivated_outside (h : s.Reachable engine) (hx : x.action = .web r)
    (hr : r.Deactivates name) (hname : Text.allBlank name = false) (hcalm : s.Untroubled x) :
    let left := Text.trim name
    let y := x.asking (.deactivateTeam (.text left))
    (s.next x).store = (s.next y).store ∧ ∃ a, (s.take x).1 = .ok (.response a) ∧
      ((s.store.team? left).isSome → a.status = 200 ∧
        (∃ d, (s.take y).1 = .ok (.answer (.deactivation d)) ∧ a.content = .json d.datum) ∧
        (∀ u ∈ (s.next x).store.users, u.team = left → u.active = false) ∧
        ∀ u ∈ s.store.users, u.team ≠ left → u ∈ (s.next x).store.users) ∧
      (s.store.team? left = none → a.status = 404 ∧ (s.next x).store = s.store) := by
  obtain ⟨hstore, -, -, u, a, hyields, ha, hlike⟩ := take_web (s := s) hx hr.call?
  obtain ⟨hthere, hmissing⟩ :=
    next_switchedOff h.sound hcalm (Text.allBlank_trim.trans hname)
  refine ⟨hstore, a, ha, fun hteam => ?_, fun hteam => ?_⟩
  · obtain ⟨⟨d, hd⟩, hoff⟩ := hthere hteam
    have hu : Reply.answer <$> u = .ok (.answer (.deactivation d)) := hyields.symm.trans hd
    have hleft : Store.SwitchedOff (Text.trim name) s.store (s.next x).store := by
      rw [hstore]
      exact hoff
    cases u with
    | error e => cases hu
    | ok b =>
      cases hu
      exact ⟨hlike.status, ⟨d, hd, hlike.content⟩, hleft.inside, hleft.outside⟩
  · obtain ⟨he, hsame⟩ := hmissing hteam
    have hu : Reply.answer <$> u = .error (.refused ⟨.teamUnknown, ""⟩) := hyields.symm.trans he
    have hleft : (s.next x).store = s.store := by
      rw [hstore]
      exact hsame
    cases u with
    | error e =>
      cases hu
      exact ⟨hlike.status, hleft⟩
    | ok b => cases hu

/-- A request with a document that holds the name of a team and nothing else. -/
def naming (path name : String) : Http.Incoming where
  method := "POST"
  target := { path }
  headers := [("content-type", "application/json")]
  body := ("\x7b\"team_name\": \"" ++ name ++ "\"\x7d").toList.map fun c => UInt8.ofNat c.toNat

theorem deactivated_outside_opening :
    let s := blank.along opening
    let x : Step := { action := .web (naming "/team/deactivate" "core ") }
    ∃ a, (s.take x).1 = .ok (.response a) ∧ a.status = 200 ∧
      (∀ u ∈ (s.next x).store.users, u.team = "core" → u.active = false) ∧
      ∀ u ∈ s.store.users, u.team ≠ "core" → u ∈ (s.next x).store.users := by
  have hnames : (naming "/team/deactivate" "core ").Deactivates "core " :=
    ⟨rfl, rfl, by decide +kernel⟩
  have hdraws : (blank.along opening).draws = [] := by decide +kernel
  have hnever : Draw.NeverFail (blank.along opening).draws := by
    rw [hdraws]
    exact nofun
  have htrim : Text.trim "core " = "core" := by decide +kernel
  have hcalm : (blank.along opening).Untroubled
      { action := .web (naming "/team/deactivate" "core ") } :=
    untroubled_of_cue rfl hnever (by decide +kernel)
  obtain ⟨-, a, ha, hthere, -⟩ :=
    reachable_opening.deactivated_outside rfl hnames (by decide +kernel) hcalm
  rw [htrim] at hthere
  obtain ⟨hstatus, -, hinside, houtside⟩ := hthere (by decide +kernel)
  exact ⟨a, ha, hstatus, hinside, houtside⟩

/-- The status of what is answered to a request from outside. -/
def statusOf? : Except Failure Reply → Option Nat
  | .ok (.response a) => some a.status
  | _ => none

/-- The answer to a request to the service. -/
def answerOf? : Except Failure Reply → Option Answer
  | .ok (.answer a) => some a
  | _ => none

/-- **A team that cannot be switched off from outside.**  A team with a blank before its
    name is set up from outside; the service switches it off, the request from outside
    finds no team.  Once there is a team of the name without the blank, the request
    is about that one. -/
theorem deactivated_outside_blank :
    let add (name : String) : Step := { action := .web (naming "/team/add" name) }
    let off : Step := { action := .web (naming "/team/deactivate" " a") }
    let s := blank.next (add " a")
    statusOf? (blank.take (add " a")).1 = some 201 ∧
      answerOf? (s.take (off.asking (.deactivateTeam (.text " a")))).1 =
        some (.deactivation {}) ∧
      statusOf? (s.take off).1 = some 404 ∧
      statusOf? ((s.next (add "a")).take off).1 = some 200 := by
  decide +kernel

end Session

end ReviewRota
