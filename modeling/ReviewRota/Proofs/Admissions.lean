/-
  ReviewRota — whom the service lets through.

  The service stands in front of the desk and looks at the texts that a request needs.  If
  one of them is missing or blank, it names the first such text, and nothing has happened.
  All other requests are answered as the desk answers them: with the texts as they are
  given, blanks around them included, and with the limit that the desk would put in itself.

  * `Text.blankPoints` and `Argument.Blank`: what counts as blank, by code points, and
    `Argument.isBlank_iff`: it is what the service tests;
  * `Request.Lacks`: the first text that a request lacks, and `Request.lacks_iff`: it is the
    one that the service finds;
  * `Session.TurnsAway`: a step is turned away, and `Session.EndsAs`: it ends as another one
    would;
  * `Session.guarded`: every step that asks the service does one or the other.
-/
import ReviewRota.Proofs.Deals
import ReviewRota.Proofs.Gateway

namespace ReviewRota

open Op

/-! ## Blank texts -/

/-- The code points of the blanks: tabs and line ends, the information separators, and the
    spaces of all widths.  The zero-width ones are not among them. -/
def Text.blankPoints : List Nat :=
  [0x9, 0xA, 0xB, 0xC, 0xD, 0x1C, 0x1D, 0x1E, 0x1F, 0x20, 0x85, 0xA0, 0x1680, 0x2000, 0x2001,
    0x2002, 0x2003, 0x2004, 0x2005, 0x2006, 0x2007, 0x2008, 0x2009, 0x200A, 0x2028, 0x2029,
    0x202F, 0x205F, 0x3000]

theorem Text.isBlank_iff {c : Char} : isBlank c ↔ c.toNat ∈ blankPoints := by
  simp only [isBlank, isSpace, blankPoints, Bool.or_eq_true, Bool.and_eq_true, decide_eq_true_eq,
    beq_iff_eq, List.mem_cons, List.not_mem_nil, or_false]
  omega

/-- Nothing is given, or nothing but blanks.  Half of a surrogate pair is no blank. -/
def Argument.Blank : Argument → Prop
  | missing => True
  | text s => ∀ c ∈ s.toList, c.toNat ∈ Text.blankPoints
  | broken _ => False

theorem Argument.isBlank_iff {a : Argument} : a.isBlank ↔ a.Blank := by
  cases a with
  | missing => simp [isBlank, Blank]
  | text s => simp [isBlank, Blank, Text.allBlank, Text.isBlank_iff]
  | broken points => simp [isBlank, Blank]

instance {a : Argument} : Decidable a.Blank := decidable_of_iff _ Argument.isBlank_iff

/-! ## The first text that is missing -/

namespace Request

variable {r : Request Argument} {name : String}

/-- Of the texts that the request needs, the one of this name is blank, and none before it
    is. -/
def Lacks (r : Request Argument) (name : String) : Prop :=
  ∃ before a after, r.required = before ++ (name, a) :: after ∧ a.Blank ∧
    ∀ b ∈ before, ¬ b.2.Blank

theorem lacks_iff :
    r.Lacks name ↔ (r.required.find? fun a => a.2.isBlank).map Prod.fst = some name := by
  simp only [Option.map_eq_some_iff, List.find?_eq_some_iff_append, Argument.isBlank_iff]
  constructor
  · rintro ⟨before, a, after, hall, ha, hbefore⟩
    refine ⟨(name, a), ⟨ha, before, after, hall, fun b hb => ?_⟩, rfl⟩
    simpa [← Argument.isBlank_iff] using hbefore b hb
  · rintro ⟨⟨_, a⟩, ⟨ha, before, after, hall, hbefore⟩, rfl⟩
    refine ⟨before, a, after, hall, ha, fun b hb => ?_⟩
    simpa [← Argument.isBlank_iff] using hbefore b hb

instance : Decidable (r.Lacks name) := decidable_of_iff _ lacks_iff.symm

/-- What the service objects to is the first text that is missing. -/
theorem Lacks.objection? (h : r.Lacks name) : r.objection? = some (.required name) := by
  obtain ⟨a, ha, rfl⟩ := Option.map_eq_some_iff.1 (lacks_iff.1 h)
  rw [Request.objection?, ha]
  rfl

theorem exists_lacks (h : ∃ a ∈ r.required, a.2.Blank) : ∃ name, r.Lacks name := by
  obtain ⟨a, ha, hblank⟩ := h
  have hfound : (r.required.find? fun a => a.2.isBlank).isSome :=
    List.find?_isSome.2 ⟨a, ha, Argument.isBlank_iff.2 hblank⟩
  obtain ⟨b, hb⟩ := Option.isSome_iff_exists.1 hfound
  exact ⟨b.1, lacks_iff.2 (by rw [hb]; rfl)⟩

end Request

/-! ## Steps -/

/-- The step with the request made straight to the desk. -/
def Step.atDesk (x : Step) (r : Request Argument) : Step := { x with action := .desk r }

namespace Session

variable {s : Session} {x y : Step} {r : Request Argument} {name : String}

/-- The step is turned away for want of a text: it is refused with its name, the store has
    not been called, and so nothing could go wrong there. -/
structure TurnsAway (s : Session) (x : Step) (name : String) : Prop
    extends s.Refuses x (.required name) where
  calls : (s.take x).2.1.calls = []
  spared : s.Spared x

/-- The step ends as the other one would, but for the log: with the same reply and in the
    same state, after the same draws and the same calls to the store. -/
structure EndsAs (s : Session) (x y : Step) : Prop where
  reply : (s.take x).1 = (s.take y).1
  next : s.next x = s.next y
  generator : (s.take x).2.1.generator = (s.take y).2.1.generator
  calls : (s.take x).2.1.calls = (s.take y).2.1.calls

theorem turnsAway_of_lacks (hx : x.action = .service r) (h : r.Lacks name) :
    s.TurnsAway x name := by
  have hends : (x.action.work x.site s.serving).Ends (s.conditions x.site.settings.engine x.cue)
      (s.scene x.cue) (fun _ _ => False)
      fun e t => e = .refused (.required name) ∧ t = s.scene x.cue := by
    rw [hx]
    refine ends_map.2 ?_
    rw [Service.perform_refused h.objection?]
    exact ends_throw.2 ⟨rfl, rfl⟩
  rcases take_of_ends hends with ⟨_, -, h⟩ | ⟨_, hreply, rfl, hleft⟩
  · exact h.elim
  have hcalls : (s.take x).2.1.calls = [] := by
    rw [hleft]
    rfl
  constructor
  case toRefuses =>
    refine ⟨hreply, ?_, draws_of_skip ?_⟩
    · rw [next_store, hleft]
      rfl
    · rw [hleft]
      rfl
  case calls => exact hcalls
  case spared =>
    rintro f - ⟨hfirst, hlast⟩
    rw [hcalls, List.count_nil] at hlast
    omega

/-- Steps under the same cue that leave the same scene, but for the log, lead to the same
    state. -/
theorem next_eq_of_unlogged (hcue : x.cue = y.cue) (hweb : x.action.isWeb = y.action.isWeb)
    (h : (s.take x).2.1.unlogged = (s.take y).2.1.unlogged) : s.next x = s.next y := by
  obtain ⟨hstore, hgenerator, -⟩ := Scene.eq_of_unlogged h
  show { s.after x.cue (s.take x).2.1 with serving := s.serving || x.action.isWeb } =
    ({ s.after y.cue (s.take y).2.1 with serving := s.serving || y.action.isWeb } : Session)
  simp only [after, hstore, hgenerator, hcue, hweb]

theorem endsAs_atDesk (hx : x.action = .service r) (hfilled : ∀ a ∈ r.required, ¬ a.2.Blank)
    (htime : Service.hasTime (s.conditions x.site.settings.engine x.cue).settings) :
    s.EndsAs x (x.atDesk r) := by
  let u := (Desk.performAny r).outcome (s.conditions x.site.settings.engine x.cue) (s.scene x.cue)
  obtain ⟨hyields, hleaves⟩ : (s.take (x.atDesk r)).1 = Reply.answer <$> u.1 ∧
      (s.take (x.atDesk r)).2.1 = u.2 := take_of_work rfl
  have hdesk : (Desk.performAny r).Ends (s.conditions x.site.settings.engine x.cue) (s.scene x.cue)
      (fun a t => u.1 = .ok a ∧ t.unlogged = u.2.unlogged)
      fun e t => u.1 = .error e ∧ t.unlogged = u.2.unlogged := by
    refine ends_iff.2 ⟨fun a t h => ?_, fun e t h => ?_⟩
    · exact ⟨congrArg Prod.fst h, congrArg (fun v => Scene.unlogged v.2) h.symm⟩
    · exact ⟨congrArg Prod.fst h, congrArg (fun v => Scene.unlogged v.2) h.symm⟩
  have hpasses : x.Asks s r := .service hx
    (fun a ha => Bool.eq_false_iff.2 fun h => hfilled a ha (Argument.isBlank_iff.1 h)) htime
  have hsame : (s.take x).1 = (s.take (x.atDesk r)).1 ∧
      (s.take x).2.1.unlogged = (s.take (x.atDesk r)).2.1.unlogged := by
    rw [hyields, hleaves]
    rcases take_of_desk hpasses (fun _ _ _ h => h) hdesk with
      ⟨a, hr, ha, hleft⟩ | ⟨e, hr, he, hleft⟩
    · exact ⟨by rw [hr, ha]; rfl, hleft⟩
    · exact ⟨by rw [hr, he]; rfl, hleft⟩
  obtain ⟨-, hgenerator, hcalls⟩ := Scene.eq_of_unlogged hsame.2
  refine ⟨hsame.1, next_eq_of_unlogged rfl ?_ hsame.2, hgenerator, hcalls⟩
  rw [hx]
  rfl

/-- **The service is the desk behind a guard.**  In every session, a step that asks the
    service is turned away if one of the texts that the request needs is missing or blank,
    and told which is the first, whichever call would have gone wrong.  Otherwise, while
    there is time, it ends as if it had asked the desk with the same request: with any texts,
    limits and draws, and whichever call goes wrong. -/
theorem guarded (s : Session) (x : Step) (hx : x.action = .service r) :
    ((∃ a ∈ r.required, a.2.Blank) → ∃ name, r.Lacks name ∧ s.TurnsAway x name) ∧
    ((∀ a ∈ r.required, ¬ a.2.Blank) →
      Service.hasTime (s.conditions x.site.settings.engine x.cue).settings →
      s.EndsAs x (x.atDesk r)) := by
  refine ⟨fun hblank => ?_, endsAs_atDesk hx⟩
  obtain ⟨name, hlacks⟩ := Request.exists_lacks hblank
  exact ⟨name, hlacks, turnsAway_of_lacks hx hlacks⟩

/-- The second of two members has a blank id, and the store cannot be reached, which nobody
    notices.  A title of no width is let through, and so is a limit below zero. -/
theorem guarded_opening :
    let s := blank.along opening
    let entering : Step :=
      { cue := { fault := some ⟨.openSession, 1, .stall⟩ }
        action := .service (.createTeam (.text "new") [⟨.text "zoe", .text "Zoe", true⟩,
          ⟨.text "\u001C\u2003\u3000", .missing, true⟩]) }
    let titled : Request Argument := .openPull (.text "p2") (.text "\u200B") (.text "ann")
    let reported : Request Argument := .reviewerReport (.text "cyd") (-3)
    s.TurnsAway entering "user_id" ∧
      s.EndsAs { action := .service titled } { action := .desk titled } ∧
      s.EndsAs { action := .service reported } { action := .desk reported } := by
  intro s entering titled reported
  have htime : Service.hasTime {} = true := by decide +kernel
  refine ⟨?_, ?_, ?_⟩
  · obtain ⟨name, hlacks, hturned⟩ := (guarded s entering rfl).1
      ⟨("user_id", .text "\u001C\u2003\u3000"), by decide, by decide⟩
    obtain rfl := Option.some.inj (Request.lacks_iff.1 hlacks)
    exact hturned
  · exact (guarded s { action := .service titled } rfl).2 (by decide) htime
  · exact (guarded s { action := .service reported } rfl).2 (by decide) htime

end Session

end ReviewRota
