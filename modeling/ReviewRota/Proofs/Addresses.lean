/-
  ReviewRota — addresses of what has been created.

  A pull request and a user have an address outside: a path that ends in the id, written
  with every byte escaped that is not one of an unreserved character.  Ids are taken as
  they are given, as long as they hold more than blanks; but an id is found at its address
  only if it is one step of the path.  One that holds a slash is more than one step, however
  the slash is escaped, and `.` and `..` are steps that are carried out.

  * `Resource`: a pull request or a user, with its address; `Request.Creates`: a request
    that creates it;
  * `Session.Creates.holds`: what has been created from outside is there, and
    `Session.along_holds`: it stays;
  * `Http.Incoming.asks_query`: what is asked at the address, and `Desk.performAny_finds`:
    it is found;
  * `Session.Reachable.addressable`: what has been created is found at its address if and
    only if its id is one step and its limit fits, and `Session.addressable_slash`: one that
    is not found.
-/
import ReviewRota.Proofs.Escapes
import ReviewRota.Proofs.Strain
import ReviewRota.Proofs.Wire

namespace ReviewRota

/-! ## Resources -/

/-- What can be created and asked for by its id. -/
inductive Resource where
  | pull (id : String)
  | user (id : String)
  deriving DecidableEq, Repr

namespace Resource

/-- The id. -/
def id : Resource → String
  | pull id | user id => id

/-- The path before the id. -/
def beginning : Resource → String
  | pull _ => "/stats/pr/"
  | user _ => "/stats/reviewer/"

/-- The name under which the id stands in a document. -/
def key : Resource → String
  | pull _ => "pr_id"
  | user _ => "user_id"

/-- The target that names the resource: its id with every byte escaped that is not one of an
    unreserved character. -/
def address (o : Resource) : Http.Target :=
  .ofText (o.beginning ++ Http.percentEncode [] o.id)

/-- The id is one step of a path, and not one that is carried out. -/
structure IsStep (o : Resource) : Prop where
  slash : '/' ∉ o.id.toList
  one : o.id ≠ "."
  two : o.id ≠ ".."

/-- The limit of the report on the resource, if it has one, fits 64 bits. -/
def Limited (usual : Int) : Resource → Prop
  | pull _ => True
  | user _ => Moment.isWord usual = true

/-- The request to the service for the resource. -/
def query : Resource → Request Argument
  | pull id => .pullReport (.text id)
  | user id => .reviewerReport (.text id) 0

variable {o : Resource}

theorem beginning_mem (o : Resource) : o.beginning ∈ Http.Route.beginnings := by
  cases o <;> simp [beginning, Http.Route.beginnings]

theorem id_ne_empty (h : Text.allBlank o.id = false) : o.id ≠ "" := by
  intro hempty
  rw [hempty] at h
  cases h

theorem query_filled (h : Text.allBlank o.id = false) :
    ∀ a ∈ o.query.required, a.2.isBlank = false := by
  cases o with
  | pull | user =>
    intro a ha
    rw [List.mem_singleton.1 ha]
    exact h

end Resource

/-- The resource is in the store. -/
def Store.Holds (s : Store) : Resource → Prop
  | .pull id => ∃ p ∈ s.pulls, p.id = id
  | .user id => s.Knows id

/-- The request is one to create the resource. -/
inductive Request.Creates : Request Argument → Resource → Prop
  | pull {id title author} : Creates (.openPull (.text id) title author) (.pull id)
  | user {team members m id} : m ∈ members → m.userId = .text id →
      Creates (.createTeam team members) (.user id)

/-! ## What has been created stays -/

namespace Store

variable {s t : Store} {now : Moment} {id : String} {o : Resource}

theorem knows_iff : s.Knows id ↔ id ∈ s.users.map User.id := by
  simp [Knows]

theorem knows_putMember {team : String} {m : Member} :
    (s.putMember team m now).Knows id ↔ s.Knows id ∨ m.userId = id := by
  unfold putMember
  split
  next u hu =>
    -- the row that is changed keeps its id
    have hids : (s.users.map fun u => if u.id = m.userId then u.submitted team m now else u).map
        User.id = s.users.map User.id := by
      rw [List.map_map]
      refine List.map_congr_left fun v _ => ?_
      by_cases hv : v.id = m.userId <;> simp [hv, User.submitted]
    rw [knows_iff, hids, ← knows_iff]
    refine ⟨.inl, fun h => h.elim (fun h => h) ?_⟩
    rintro rfl
    exact ⟨u, mem_of_user? hu⟩
  next => simp [Knows, or_and_right, exists_or]

theorem knows_putAll {team : String} {members : List Member} :
    (members.foldl (fun s m => s.putMember team m now) s).Knows id ↔
      s.Knows id ∨ ∃ m ∈ members, m.userId = id := by
  induction members generalizing s with
  | nil => simp
  | cons m members ih =>
    rw [List.foldl_cons, ih, knows_putMember, List.exists_mem_cons_iff, or_assoc]

theorem Edit.knows (h : Edit now s t) (hk : s.Knows id) : t.Knows id := by
  cases h with
  | addTeam => exact hk
  | putMember => exact knows_putMember.2 (.inl hk)
  | setActive =>
    rw [knows_iff, setActive_user_ids]
    exact knows_iff.1 hk
  | switchOff =>
    rw [knows_iff, switchOff_user_ids]
    exact knows_iff.1 hk
  | merge => exact hk
  | handOver => rwa [Knows, handOver_users]

theorem Edits.knows (h : Edits now s t) (hk : s.Knows id) : t.Knows id := by
  induction h with
  | refl => exact hk
  | tail _ he ih => exact he.knows ih

end Store

namespace Session

variable {engine : Settings.Engine} {s : Session} {x : Step} {steps : List Step} {o : Resource}

/-- A step keeps what is there. -/
theorem next_holds (hx : x.Regular engine) (hs : s.store.Sound) (h : s.store.Holds o) :
    (s.next x).store.Holds o := by
  cases o with
  | pull id =>
    obtain ⟨p, hp, rfl⟩ := h
    obtain ⟨q, hq, hc⟩ := next_course hx hs hp
    exact ⟨q, hq, hc.id_eq⟩
  | user id =>
    rcases next_effect hx hs with he | ⟨view, he, -⟩
    · exact he.knows h
    · change Store.Knows _ id
      rw [he.result]
      exact h

theorem along_holds (h : ∀ x ∈ steps, Step.Regular engine x) (hs : s.store.Sound)
    (ho : s.store.Holds o) : (s.along steps).store.Holds o := by
  induction steps generalizing s with
  | nil => exact ho
  | cons x steps ih =>
    have hx := h x List.mem_cons_self
    exact ih (fun y hy => h y (List.mem_cons_of_mem _ hy)) (next_sound hx hs) (next_holds hx hs ho)

end Session

/-! ## What is created is there -/

namespace Desk

open Op Store

variable {c : Conditions} {s : Scene} {o : Resource} {q : Request Argument}

theorem exists_mem_of_mapM {α β : Type} {f : α → Option β} {l : List α} {bs : List β} {a : α}
    (h : l.mapM f = some bs) (ha : a ∈ l) : ∃ b ∈ bs, f a = some b := by
  induction l generalizing bs with
  | nil => cases ha
  | cons x l ih =>
    simp only [List.mapM_cons, Option.bind_eq_bind, Option.bind_eq_some_iff, Option.pure_def,
      Option.some.injEq] at h
    obtain ⟨b, hb, bs, hbs, rfl⟩ := h
    rcases List.mem_cons.1 ha with rfl | ha
    · exact ⟨b, List.mem_cons_self, hb⟩
    · obtain ⟨b', hb', hf⟩ := ih hbs ha
      exact ⟨b', List.mem_cons_of_mem _ hb', hf⟩

theorem complete?_userId {m : MemberEntry Argument} {m' : Member} (h : m.complete? = some m') :
    m.userId = .text m'.userId := by
  simp only [MemberEntry.complete?, Option.bind_eq_bind, Option.bind_eq_some_iff, text?_eq_some,
    Option.pure_def, Option.some.injEq] at h
  obtain ⟨id, hid, _, -, rfl⟩ := h
  exact hid

theorem createTeam_creates {name id : String} {members : List (MemberEntry Argument)}
    {m : MemberEntry Argument} (hm : m ∈ members) (hid : m.userId = .text id) :
    (performAny (.createTeam (.text name) members)).Ends c s (fun _ t => t.store.Knows id)
      fun _ _ => True := by
  cases hall : members.mapM MemberEntry.complete? with
  | none =>
    rw [performAny_of_incomplete (complete?_createTeam hall)]
    exact (createWith_ends hall).mono (fun _ _ => False.elim) fun _ _ _ => trivial
  | some ms =>
    rw [performAny_of_complete (complete?_createTeam hall)]
    refine ends_map.2 (createTeam_ends.mono (fun _ t h => ?_) fun _ _ _ => trivial)
    obtain ⟨-, ht, -⟩ := h
    obtain ⟨m', hm', hcomplete⟩ := exists_mem_of_mapM hall hm
    rw [ht]
    refine knows_putAll.2 (.inr ⟨m', hm', ?_⟩)
    exact Argument.text.inj ((complete?_userId hcomplete).symm.trans hid)

theorem openPull_creates {id : String} {title author : Argument} :
    (performAny (.openPull (.text id) title author)).Ends c s
      (fun _ t => ∃ p ∈ t.store.pulls, p.id = id) fun _ _ => True := by
  by_cases hwhole : title.text? = none ∨ author.text? = none
  · rw [performAny_of_incomplete (complete?_openPull (.inr hwhole))]
    have hlost : (performIncomplete (.openPull (.text id) title author)).Yields fun _ => False := by
      cases author with
      | text => exact openUnnamed_yields
      | missing | broken => exact absent_yields
    exact (hlost c s).mono (fun _ _ => False.elim) fun _ _ h => h
  · obtain ⟨htitle, hauthor⟩ := not_or.1 hwhole
    obtain ⟨title, rfl⟩ := exists_text htitle
    obtain ⟨author, rfl⟩ := exists_text hauthor
    refine ends_map.2 (openPull_ends.mono (fun view t h => ?_) fun _ _ _ => trivial)
    obtain ⟨hid, -, -, ho⟩ := h
    rw [ho.result]
    exact ⟨view.row, List.mem_append_right _ (List.mem_singleton_self _), hid⟩

/-- **What a request creates is there** when it has been answered. -/
theorem performAny_creates (h : q.Creates o) :
    (performAny q).Ends c s (fun _ t => t.store.Holds o) fun _ _ => True := by
  cases h with
  | pull => exact openPull_creates
  | @user team _ _ _ hm hid =>
    cases team with
    | text => exact createTeam_creates hm hid
    | missing | broken =>
      refine .unitOfWork (fun _ => ?_) fun _ _ _ _ => trivial
      exact (unlessTaken_yields (P := fun _ => False) notStored_yields _ _).mono
        (fun _ _ => False.elim) fun _ _ h => h

end Desk

theorem Request.Creates.required {q : Request Argument} {o : Resource} (h : q.Creates o) :
    ∃ a ∈ q.required, a.2 = .text o.id := by
  cases h with
  | pull => exact ⟨_, List.mem_cons_self, rfl⟩
  | user hm hid => exact ⟨_, List.mem_cons_of_mem _ (List.mem_map_of_mem hm), hid⟩

/-- What the service creates is there, and its id holds more than blanks. -/
theorem Service.perform_creates {c : Conditions} {s : Scene} {q : Request Argument} {o : Resource}
    (h : q.Creates o) : (perform q).Ends c s
      (fun _ t => t.store.Holds o ∧ Text.allBlank o.id = false) fun _ _ => True := by
  cases hobjection : q.objection? with
  | some e =>
    rw [perform_refused hobjection]
    exact Op.ends_throw.2 trivial
  | none =>
    obtain ⟨a, ha, hid⟩ := h.required
    have hblank := Request.objection?_eq_none.1 hobjection a ha
    rw [hid] at hblank
    refine perform_answered ?_
    exact (Desk.performAny_creates h).mono (fun _ _ ht => ⟨ht, hblank⟩) fun _ _ h => h

/-! ## What is asked at an address -/

namespace Desk

open Op Store

variable {c : Conditions} {s : Scene} {o : Resource}

/-- **What is there is found.** -/
theorem performAny_finds (h : s.store.Holds o) (hlimit : o.Limited c.settings.defaultLimit) :
    (performAny o.query).Ends c s
      (fun b _ => (Http.documentOf o.query b).get? o.key = some (.text o.id))
      fun e t => c.Struck e t := by
  cases o with
  | pull id =>
    obtain ⟨p, hp, hid⟩ := h
    refine ends_map.2 (.unitOfWork (fun _ => .bind (.query (fun _ => ?_) fun _ _ h _ => h))
      fun _ _ h _ => h)
    cases hfound : s.store.pull? id with
    | none => exact absurd hid (pull?_eq_none_iff.1 hfound p hp)
    | some found =>
      refine .bind (.query (fun _ => .bind (.query (fun _ => ends_pure.2 ?_)
        fun _ _ h _ => h)) fun _ _ h _ => h)
      exact congrArg (fun id => some (Datum.text id)) (mem_of_pull? hfound).2
  | user id =>
    obtain ⟨u, hu, hid⟩ := h
    refine ends_map.2 (.unitOfWork (fun _ => .bind (.query (fun _ => ?_) fun _ _ h _ => h))
      fun _ _ h _ => h)
    cases hfound : s.store.user? id with
    | none => exact absurd hid (user?_eq_none_iff.1 hfound u hu)
    | some found =>
      refine .bind (.query (fun _ => .bind (ends_read.2 (.bind (.bind (.query (fun _ => ?_)
        fun _ _ h _ => h))))) fun _ _ h _ => h)
      rw [limited_eq_pure (by simpa [limitOr, Resource.Limited] using hlimit)]
      exact rfl

end Desk

namespace Http

variable {r : Incoming} {o : Resource}

/-- A request to the address of a resource asks for it, if its id is one step. -/
theorem Incoming.asks_query (hmethod : r.method = "GET") (htarget : r.target = o.address)
    (hstep : o.IsStep) (hne : o.id ≠ "") : r.Asks o.query := by
  rw [Resource.address, Target.ofText_step o.beginning_mem hstep.one hstep.two] at htarget
  have hto : r.SentToId o.beginning o.id := ⟨hmethod, by rw [htarget], hne, hstep.slash⟩
  cases o with
  | pull id => exact .pullReport hto
  | user id =>
    refine .reviewerReport hto (.inr ⟨?_, rfl⟩)
    rw [Incoming.query, htarget]
    rfl

/-- The ids `.` and `..` are carried out as steps: the one leads to no route, and the other to
    the overview. -/
theorem carried_out : ∀ b ∈ Route.beginnings,
    Route.ofPath? (Target.ofText (b ++ percentEncode [] ".")).path = none ∧
    (Target.ofText (b ++ percentEncode [] "..")).path = "/stats" := by decide +kernel

theorem le_replyTo_status {e : Failure} : 400 ≤ (replyTo e).status := by
  unfold replyTo
  split
  next r =>
    show 400 ≤ statusOf r.cause
    cases r.cause <;> decide
  next => split <;> decide
  next => decide
  next => decide

end Http

/-- The step asks for the resource at its address. -/
def Step.Visits (x : Step) (o : Resource) : Prop :=
  ∃ r, x.action = .web r ∧ r.method = "GET" ∧ r.target = o.address

namespace Session

variable {engine : Settings.Engine} {s : Session} {x y : Step} {steps : List Step} {o : Resource}
  {r : Http.Incoming} {q : Request Argument}

/-- The step creates the resource from outside, with success. -/
def Creates (s : Session) (x : Step) (o : Resource) : Prop :=
  ∃ r q a, x.action = .web r ∧ r.Asks q ∧ q.Creates o ∧ (s.take x).1 = .ok (.response a) ∧
    a.status = 201

/-- **What has been created from outside is there.** -/
theorem Creates.holds (h : s.Creates x o) :
    (s.next x).store.Holds o ∧ Text.allBlank o.id = false := by
  obtain ⟨r, q, a, hx, hasks, hcreates, ha, hstatus⟩ := h
  obtain ⟨a', ha', ⟨b, hb, -⟩ | ⟨e, -, hlike⟩⟩ := take_web_of_ends
    (P := fun _ store => store.Holds o ∧ Text.allBlank o.id = false) (Q := fun _ _ => True) hx
    hasks.call? (Service.perform_creates hcreates)
  · exact hb
  · rw [ha] at ha'
    cases ha'
    have hbad : 400 ≤ a.status := hlike.status ▸ Http.le_replyTo_status
    omega

/-- The step is answered with status 200 and a document that names the resource. -/
def Finds (s : Session) (x : Step) (o : Resource) : Prop :=
  ∃ a d, (s.take x).1 = .ok (.response a) ∧ a.status = 200 ∧ a.content = .json d ∧
    d.get? o.key = some (.text o.id)

/-- What is there is found at its address, if its id is one step and its limit fits. -/
theorem finds_of_isStep (hx : x.Visits o) (ho : s.store.Holds o)
    (hid : Text.allBlank o.id = false) (hstep : o.IsStep)
    (hlimit : o.Limited x.site.settings.engine.defaultLimit) (hcalm : s.Untroubled x) :
    s.Finds x o := by
  obtain ⟨r, hx, hmethod, htarget⟩ := hx
  obtain ⟨htime, hcalm⟩ := hcalm
  have hasks := Http.Incoming.asks_query hmethod htarget hstep (Resource.id_ne_empty hid)
  have hends : (Service.perform o.query).Ends (s.conditions x.site.settings.engine x.cue)
      (s.scene x.cue) (fun b _ => (Http.documentOf o.query b).get? o.key = some (.text o.id))
      fun _ _ => False :=
    Service.perform_passes (Resource.query_filled hid) htime (fun _ _ _ h => h)
      ((Desk.performAny_finds (s := s.scene x.cue) ho hlimit).mono (fun _ _ h => h)
        fun _ _ hstruck => hstruck.not_calm hcalm)
  obtain ⟨a, ha, ⟨b, hb, hlike⟩ | ⟨e, he, -⟩⟩ := take_web_of_ends
    (P := fun b _ => (Http.documentOf o.query b).get? o.key = some (.text o.id))
    (Q := fun _ _ => False) hx hasks.call? hends
  · refine ⟨a, _, ha, ?_, hlike.content, hb⟩
    rw [hlike.status]
    cases o <;> rfl
  · exact he.elim

/-- What no route takes is not answered with status 200. -/
theorem not_finds_of_lost (hx : x.action = .web r) (hmethod : r.method = "GET")
    (hroute : Http.Route.ofPath? r.target.path = none) (hfault : x.cue.fault = none) :
    ¬ s.Finds x o := by
  rintro ⟨a, d, ha, hstatus, -, -⟩
  have hidles : Http.Idles (· ≠ 200) (Http.answer x.site.settings.web.corsOrigins r) := by
    refine Http.answer_idles (fun a ha => ?_) fun _ => Http.dispatch_lost (fun route h => ?_)
      (by decide) (by decide) (by decide)
    · rw [Http.preflight?_eq_none (by rw [hmethod]; decide)] at ha
      cases ha
    · rw [(Http.resolve_eq_taken.1 h).1] at hroute
      cases hroute
  obtain ⟨-, a', ha', hne⟩ := take_of_idles (s := s) hx hidles
  rw [ha] at ha'
  cases ha'
  exact hne hfault hstatus

/-- An overview names no resource. -/
theorem not_finds_of_overview (hx : x.action = .web r) (hasks : r.Asks .overview) :
    ¬ s.Finds x o := by
  rintro ⟨a, d, ha, hstatus, hcontent, hnames⟩
  obtain ⟨a', ha', ⟨b, hfits, hlike⟩ | ⟨e, -, hlike⟩⟩ := take_web_of_ends (s := s)
    (P := fun b _ => (Request.overview : Request Argument).Fits b) (Q := fun _ _ => True) hx
    hasks.call? (Service.perform_fits _ _)
  · rw [ha] at ha'
    cases ha'
    obtain ⟨o', rfl⟩ := hfits
    rw [hlike.content] at hcontent
    cases hcontent
    cases o <;> cases hnames
  · rw [ha] at ha'
    cases ha'
    have hbad : 400 ≤ a.status := hlike.status ▸ Http.le_replyTo_status
    omega

/-- What has a limit that does not fit is not found at its address. -/
theorem limited_of_finds (hs : s.store.Sound) (hx : x.Visits o) (ho : s.store.Holds o)
    (hid : Text.allBlank o.id = false) (hstep : o.IsStep) (hcalm : s.Untroubled x)
    (h : s.Finds x o) : o.Limited x.site.settings.engine.defaultLimit := by
  cases o with
  | pull => exact trivial
  | user id =>
    obtain ⟨r, hx, hmethod, htarget⟩ := hx
    obtain ⟨htime, hcalm⟩ := hcalm
    have hasks := Http.Incoming.asks_query hmethod htarget hstep (Resource.id_ne_empty hid)
    by_contra hlimit
    have hover : (Resource.user id).query.Overtaxes x.site.settings.engine.defaultLimit s.store :=
      ⟨ho, by simpa [limitOr, Resource.Limited] using hlimit⟩
    have hends := Service.perform_overtaxed (s := s.scene x.cue) hs hcalm htime
      (Request.objection?_eq_none.2 (Resource.query_filled hid)) hover
    obtain ⟨a, ha, ⟨_, hnot, -⟩ | ⟨e, he, hlike⟩⟩ := take_web_of_ends (P := fun _ _ => False)
      (Q := fun e _ => e.Grave) hx hasks.call? hends
    · exact hnot
    · obtain ⟨a', _, ha', hstatus, -⟩ := h
      rw [ha] at ha'
      cases ha'
      exact absurd (hstatus.symm.trans (hlike.status.trans he)) (by decide)

/-- What has an id that is not one step is not found at its address. -/
theorem isStep_of_finds (hx : x.Visits o) (hfault : x.cue.fault = none) (h : s.Finds x o) :
    o.IsStep := by
  obtain ⟨r, hx, hmethod, htarget⟩ := hx
  refine ⟨fun hslash => ?_, fun hone => ?_, fun htwo => ?_⟩
  · have hone : o.id ≠ "." := fun he => absurd (he ▸ hslash) (by decide)
    have htwo : o.id ≠ ".." := fun he => absurd (he ▸ hslash) (by decide)
    refine not_finds_of_lost hx hmethod ?_ hfault h
    rw [htarget, Resource.address, Http.Target.ofText_step o.beginning_mem hone htwo]
    exact Http.Route.ofPath?_eq_none o.beginning_mem hslash
  · refine not_finds_of_lost hx hmethod ?_ hfault h
    rw [htarget, Resource.address, hone]
    exact (Http.carried_out _ o.beginning_mem).1
  · refine not_finds_of_overview hx (.overview ⟨hmethod, .inl ?_⟩) h
    rw [htarget, Resource.address, htwo]
    exact (Http.carried_out _ o.beginning_mem).2

/-- **What has been created is found at its address if and only if its id is one step**, and
    the limit fits that the settings put on its report.  A pull request or a user has been
    created from outside, and steps have been taken since; then, in calm, it is asked for at
    its address. -/
theorem Reachable.addressable (h : s.Reachable engine) (hx : x.Regular engine)
    (hcreates : s.Creates x o) (hsteps : ∀ z ∈ steps, Step.Regular engine z) (hy : y.Visits o)
    (hcalm : ((s.next x).along steps).Untroubled y) :
    ((s.next x).along steps).Finds y o ↔
      o.IsStep ∧ o.Limited y.site.settings.engine.defaultLimit := by
  obtain ⟨hthere, hid⟩ := hcreates.holds
  have hsound := next_sound hx h.sound
  have hstill := along_holds hsteps hsound hthere
  constructor
  · intro hfinds
    have hstep := isStep_of_finds hy hcalm.calm.1 hfinds
    exact ⟨hstep, limited_of_finds (along_sound hsteps hsound) hy hstill hid hstep hcalm hfinds⟩
  · rintro ⟨hstep, hlimit⟩
    exact finds_of_isStep hy hstill hid hstep hlimit hcalm

/-- A request with a document of texts. -/
def posting (path : String) (texts : List (String × String)) : Http.Incoming where
  method := "POST"
  target := { path }
  headers := [("content-type", "application/json")]
  body := ("\x7b" ++ ", ".intercalate (texts.map fun f => "\"" ++ f.1 ++ "\": \"" ++ f.2 ++ "\"") ++
    "\x7d").toList.map fun c => UInt8.ofNat c.toNat

/-- A request that creates a pull request of `ann`. -/
def creating (id : String) : Http.Incoming :=
  posting "/pullRequest/create"
    [("pull_request_id", id), ("pull_request_name", "Title"), ("author_id", "ann")]

/-- A step with the request from outside. -/
def opensPull (id : String) : Step where
  action := .web (creating id)

/-- A step that asks for the resource at its address. -/
def visiting (o : Resource) : Step where
  action := .web { method := "GET", target := o.address }

theorem exists_of_statusOf? {reply : Except Failure Reply} {n : Nat}
    (h : statusOf? reply = some n) : ∃ a, reply = .ok (.response a) ∧ a.status = n := by
  unfold statusOf? at h
  split at h
  next a => exact ⟨a, rfl, Option.some.inj h⟩
  next => cases h

/-- A body with some texts fills a form that asks for them. -/
theorem exists_fills {r : Http.Incoming} {texts : List (String × String)} (hne : texts ≠ [])
    (h : ∀ f ∈ texts, (Http.readBody r).textAt? f.1 = some f.2) :
    ∃ fs, r.Fills fs ∧ ∀ f ∈ texts, Fields.Gives fs f.1 Argument.read (.text f.2) := by
  obtain ⟨f₀, hf₀⟩ := List.exists_mem_of_ne_nil texts hne
  obtain ⟨fs, hfs, -⟩ := Http.Body.textAt?_eq_some (h f₀ hf₀)
  refine ⟨fs, hfs, fun f hf => ?_⟩
  obtain ⟨fs', hfs', hget⟩ := Http.Body.textAt?_eq_some (h f hf)
  rw [hfs] at hfs'
  cases hfs'
  exact ⟨_, hget, rfl⟩

theorem creating_asks : (creating "p2").Asks
    (.openPull (.text "p2") (.text "Title") (.text "ann")) := by
  have htexts : ∀ f ∈ [("pull_request_id", "p2"), ("pull_request_name", "Title"),
      ("author_id", "ann")], (Http.readBody (creating "p2")).textAt? f.1 = some f.2 := by
    decide +kernel
  obtain ⟨fs, hfs, hgives⟩ := exists_fills (List.cons_ne_nil _ _) htexts
  simp only [List.forall_mem_cons] at hgives
  obtain ⟨hpull, htitle, hauthor, -⟩ := hgives
  exact .openPull ⟨rfl, .inl rfl⟩ hfs hpull htitle hauthor

theorem addressable_opening :
    let s := blank.along opening
    s.Creates (opensPull "p2") (.pull "p2") ∧
      ((s.next (opensPull "p2")).along closing).Finds (visiting (.pull "p2")) (.pull "p2") := by
  intro s
  have hcreates : s.Creates (opensPull "p2") (.pull "p2") := by
    have hstatus : statusOf? (s.take (opensPull "p2")).1 = some 201 := by decide +kernel
    obtain ⟨a, ha, ha'⟩ := exists_of_statusOf? hstatus
    exact ⟨_, _, a, rfl, creating_asks, .pull, ha, ha'⟩
  have hcalm : ((s.next (opensPull "p2")).along closing).Untroubled (visiting (.pull "p2")) :=
    untroubled_of_draws rfl (by decide +kernel) (by decide +kernel)
  have hvisits : (visiting (.pull "p2")).Visits (.pull "p2") := ⟨_, rfl, rfl, rfl⟩
  have hstep : (Resource.pull "p2").IsStep := ⟨by decide, by decide, by decide⟩
  have hsteps : ∀ z ∈ closing, Step.Regular {} z := by decide +kernel
  have hfinds := reachable_opening.addressable ⟨rfl, rfl⟩ hcreates hsteps hvisits hcalm
  exact ⟨hcreates, hfinds.2 ⟨hstep, trivial⟩⟩

/-- **What is created and not found.**  A pull request whose id holds a slash is created,
    and nothing is found at its address. -/
theorem addressable_slash :
    let s := blank.along opening
    statusOf? (s.take (opensPull "a/b")).1 = some 201 ∧
      statusOf? ((s.next (opensPull "a/b")).take (visiting (.pull "a/b"))).1 = some 404 := by
  decide +kernel

end Session

end ReviewRota
