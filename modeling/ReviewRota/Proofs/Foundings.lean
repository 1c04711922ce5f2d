/-
  ReviewRota — founding a team.

  The members that are submitted for a new team may name a user more than once, and they
  may name users of other teams.  For every user the last entry counts: users who are
  known move to the team, the others are new, and nobody else is touched.

  * `Member.last?` is the last entry for a user, and `Member.roster` the team that comes of
    some entries;
  * `Store.user?_putAll`: every user after some entries were put into a team one after
    another;
  * `Store.members_founded`, `Store.members_founded_of_ne`: the members of the new team and
    of the others;
  * `Desk.createTeam_taken` and `Desk.createTeam_free`: a new team is refused only where
    its name is taken;
  * `Session.Founds`: the step founds a team, and `Session.Reachable.team_founded`: what
    becomes of a request to found one.
-/
import ReviewRota.Proofs.Deals
import ReviewRota.Proofs.Integrity

namespace ReviewRota

variable {c : Conditions} {name team id : String} {members : List Member} {m : Member}
  {u v : User} {now : Moment}

/-! ## The entries that count -/

/-- The last entry for a user. -/
def Member.last? (members : List Member) (id : String) : Option Member :=
  members.reverse.find? (·.userId = id)

/-- The distinct users of some entries in ascending order of their ids, each as in the
    last entry. -/
def Member.roster (members : List Member) : List Member :=
  (ascending (distinct (members.map MemberEntry.userId))).filterMap (last? members)

namespace Member

theorem last?_cons : last? (m :: members) id =
    (last? members id).or (if m.userId = id then some m else none) := by
  rw [last?, List.reverse_cons, List.find?_append, List.find?_singleton]
  simp only [decide_eq_true_eq]
  rfl

theorem of_last? (h : last? members id = some m) : m ∈ members ∧ m.userId = id :=
  ⟨List.mem_reverse.1 (List.mem_of_find?_eq_some h), by simpa using List.find?_some h⟩

theorem last?_eq_none_iff : last? members id = none ↔ id ∉ members.map MemberEntry.userId := by
  simp [last?, List.find?_eq_none]

theorem mem_roster : m ∈ roster members ↔ last? members m.userId = some m := by
  simp only [roster, List.mem_filterMap, mem_ascending, mem_distinct]
  constructor
  · rintro ⟨id, -, h⟩
    rwa [(of_last? h).2]
  · intro h
    exact ⟨m.userId, List.mem_map_of_mem (of_last? h).1, h⟩

/-- The team that comes of the entries has the users whom they name. -/
theorem mem_roster_ids : id ∈ (roster members).map MemberEntry.userId ↔
    id ∈ members.map MemberEntry.userId := by
  constructor
  · intro h
    obtain ⟨m, hm, rfl⟩ := List.mem_map.1 h
    exact List.mem_map_of_mem (of_last? (mem_roster.1 hm)).1
  · intro h
    obtain ⟨m, hm⟩ := Option.ne_none_iff_exists'.1 (mt last?_eq_none_iff.1 (not_not.2 h))
    obtain ⟨-, rfl⟩ := of_last? hm
    exact List.mem_map_of_mem (mem_roster.2 hm)

theorem pairwise_roster : (roster members).Pairwise (·.userId < ·.userId) := by
  refine List.pairwise_filterMap.2 ((pairwise_ascending (nodup_distinct _)).imp ?_)
  intro a b hab m hm n hn
  rwa [(of_last? hm).2, (of_last? hn).2]

end Member

/-! ## Entries put into a team -/

namespace Store

variable {s : Store}

/-- The row of a user after an entry was submitted. -/
def enrolled (s : Store) (team : String) (now : Moment) (m : Member) : User :=
  match s.user? m.userId with
  | some u => u.submitted team m now
  | none => ⟨m.userId, m.username, team, m.active, now, now⟩

theorem enrolled_member : (s.enrolled team now m).member = m := by
  unfold enrolled
  cases hu : s.user? m.userId with
  | none => rfl
  | some u =>
    show (⟨u.id, m.username, m.active⟩ : Member) = m
    rw [(mem_of_user? hu).2]

theorem enrolled_team : (s.enrolled team now m).team = team := by
  unfold enrolled
  cases s.user? m.userId <;> rfl

theorem enrolled_id : (s.enrolled team now m).id = m.userId :=
  congrArg MemberEntry.userId enrolled_member

theorem enrolled_known (h : s.user? m.userId = some u) :
    s.enrolled team now m = u.submitted team m now := by
  rw [enrolled, h]

theorem enrolled_unknown (h : s.user? m.userId = none) :
    s.enrolled team now m = ⟨m.userId, m.username, team, m.active, now, now⟩ := by
  rw [enrolled, h]

/-- An entry concerns the user whom it names. -/
theorem user?_putMember : (s.putMember team m now).user? id =
    if m.userId = id then some (s.enrolled team now m) else s.user? id := by
  unfold putMember enrolled
  cases hu : s.user? m.userId with
  | none =>
    show (s.users ++ [_]).find? (fun v : User => v.id = id) = _
    rw [List.find?_append]
    split
    next he =>
      subst he
      rw [show s.users.find? (fun v => v.id = m.userId) = none from hu]
      simp
    next hne => simp [hne, user?]
  | some u =>
    let f (v : User) : User := if v.id = m.userId then v.submitted team m now else v
    have hid (v : User) : (f v).id = v.id := by
      dsimp only [f]
      split <;> rfl
    have hmap : (s.users.map f).find? (fun v => v.id = id) = (s.user? id).map f := by
      rw [List.find?_map]
      simp only [Function.comp_def, hid]
      rfl
    refine hmap.trans ?_
    split
    next he =>
      subst he
      rw [hu]
      exact congrArg some (if_pos (mem_of_user? hu).2)
    next hne =>
      cases hv : s.user? id with
      | none => rfl
      | some v => exact congrArg some (if_neg ((mem_of_user? hv).2.trans_ne (Ne.symm hne)))

/-- An entry overrides the one before it for the same user. -/
theorem enrolled_putMember {e : Member} :
    (s.putMember team m now).enrolled team now e = s.enrolled team now e := by
  by_cases he : m.userId = e.userId
  · have hrow : (s.putMember team m now).user? e.userId = some (s.enrolled team now m) := by
      rw [user?_putMember, if_pos he]
    have hput : (s.putMember team m now).enrolled team now e =
        (s.enrolled team now m).submitted team e now := enrolled_known hrow
    rw [hput, enrolled, enrolled, he]
    cases s.user? e.userId <;> rfl
  · rw [enrolled, user?_putMember, if_neg he]
    rfl

/-- **Entries put in one after another.**  Every user is as the last entry says, or as
    before where there is none. -/
theorem user?_putAll : (members.foldl (fun s m => s.putMember team m now) s).user? id =
    ((Member.last? members id).map (s.enrolled team now)).or (s.user? id) := by
  induction members generalizing s with
  | nil => rfl
  | cons m members ih =>
    rw [List.foldl_cons, ih, Member.last?_cons, user?_putMember]
    cases Member.last? members id with
    | some e =>
      simp only [Option.map_some, Option.some_or, enrolled_putMember]
    | none => split <;> rfl

theorem user?_founded : (s.founded name members now).user? id =
    ((Member.last? members id).map (s.enrolled name now)).or (s.user? id) := user?_putAll

/-- Entries concern users alone. -/
theorem putAll_eq : members.foldl (fun s m => s.putMember team m now) s =
    { s with users := (members.foldl (fun s m => s.putMember team m now) s).users } := by
  induction members generalizing s with
  | nil => rfl
  | cons m members ih =>
    have hm : s.putMember team m now = { s with users := (s.putMember team m now).users } := by
      unfold putMember
      split <;> rfl
    rw [List.foldl_cons, ih, hm]

theorem founded_eq : s.founded name members now =
    { s with
      teams := s.teams ++ [⟨name, now, now⟩]
      users := (s.founded name members now).users } := putAll_eq

/-- The members of a new team are the users who are submitted for it. -/
theorem members_founded (hs : s.Sound) (hl : s.Linked) (hn : s.team? name = none) :
    ((s.founded name members now).members name).map User.member = Member.roster members := by
  have ht : (s.founded name members now).Sound := (founded_edits hn).sound hs
  refine eq_of_pairwise_lt MemberEntry.userId (List.pairwise_map.2 (ht.pairwise_members name))
    Member.pairwise_roster fun m => ?_
  rw [List.mem_map, Member.mem_roster]
  constructor
  · rintro ⟨v, hv, rfl⟩
    obtain ⟨hv, hteam⟩ := mem_members.1 hv
    rw [ht.mem_users_iff, user?_founded] at hv
    show Member.last? members v.id = _
    cases he : Member.last? members v.id with
    | some e =>
      rw [he] at hv
      rw [← Option.some.inj hv, enrolled_member]
    | none =>
      -- no user is in a team that is not there
      rw [he] at hv
      obtain ⟨t, hmem, hname⟩ := hl.placed v (mem_of_user? hv).1
      exact absurd (hname.trans hteam) (team?_eq_none_iff.1 hn t hmem)
  · intro hm
    refine ⟨s.enrolled name now m, mem_members.2 ⟨?_, enrolled_team⟩, enrolled_member⟩
    rw [ht.mem_users_iff, enrolled_id, user?_founded, hm]
    rfl

/-- Other teams lose the users who are submitted for the new one. -/
theorem members_founded_of_ne (hs : s.Sound) (hn : s.team? name = none) (hne : team ≠ name) :
    (s.founded name members now).members team =
      (s.members team).filter (·.id ∉ members.map MemberEntry.userId) := by
  have ht : (s.founded name members now).Sound := (founded_edits hn).sound hs
  refine eq_of_pairwise_lt User.id (ht.pairwise_members team)
    ((hs.pairwise_members team).filter _) fun v => ?_
  rw [List.mem_filter, mem_members, mem_members, ht.mem_users_iff, hs.mem_users_iff, user?_founded,
    decide_eq_true_eq, ← Member.last?_eq_none_iff]
  cases he : Member.last? members v.id with
  | some e =>
    simp only [Option.map_some, Option.some_or, Option.some_inj, reduceCtorEq, and_false, iff_false]
    rintro ⟨rfl, hteam⟩
    exact hne (hteam.symm.trans enrolled_team)
  | none => simp

end Store

/-! ## The desk -/

namespace Desk

open Op

variable {s : Scene}

theorem foundTeam_taken (hf : c.fault = none) (hn : s.store.team? name ≠ none) :
    (foundTeam name).Refuses c s ⟨.teamExists, ""⟩ := by
  refine ends_unlessTaken.2 (.attempt (fun _ _ h => ?_) (fun _ e he => ?_) (c.spared hf))
  · unfold Store.addTeam at h
    split at h
    next => cases h
    next hnone => exact (hn hnone).elim
  · unfold Store.addTeam at he
    split at he
    next =>
      obtain rfl := Except.error.inj he
      rw [if_pos (by decide +kernel)]
      exact ends_pure.2 ⟨rfl, rfl, rfl⟩
    next => cases he

theorem foundTeam_free (hf : c.fault = none) (hn : s.store.team? name = none) :
    (foundTeam name).Ends c s (fun _ t => t.generator = s.generator) fun _ _ => False := by
  refine ends_unlessTaken.2 (.attempt (fun _ _ _ => rfl) (fun _ e he => ?_) (c.spared hf))
  unfold Store.addTeam at he
  rw [hn] at he
  cases he

theorem createTeam_taken (hf : c.fault = none) (hn : s.store.team? name ≠ none) :
    (createTeam name members).Refuses c s ⟨.teamExists, ""⟩ := by
  refine .bind (.unitOfWork (fun calls => .bind ?_) (c.spared hf))
  refine (foundTeam_taken (s := { s with calls }) hf hn).mono (fun _ _ => False.elim) ?_
  rintro e t ⟨he, -, hg⟩
  exact ⟨he, rfl, hg⟩

/-- Nothing but its name keeps a team from being set up. -/
theorem createTeam_free (hf : c.fault = none) (hn : s.store.team? name = none) :
    (createTeam name members).Ends c s (fun view _ => view.team = name) fun _ _ => False := by
  refine .bind (.unitOfWork (fun calls => .bind ?_) (c.spared hf))
  refine (foundTeam_free (s := { s with calls }) hf hn).mono (fun _ t _ => ?_) fun _ _ => False.elim
  refine .bind (Ends.mono (Ends.forM (I := fun _ _ => True) (fun _ _ _ _ =>
    .write (fun _ => trivial) (c.spared hf)) trivial) (fun _ _ _ => ?_) fun _ _ => False.elim)
  exact .query (fun _ => .bind (.report fun _ => rfl)) (c.spared hf)

end Desk

/-! ## A step that founds a team -/

namespace Session

open Op

variable {engine : Settings.Engine} {s : Session} {x : Step}
  {entries : List (MemberEntry Argument)}

/-- The step founds a team with some entries: it answers with the team that comes of them,
    which is also what is shown of it afterwards; other teams lose the users of the
    entries; a user who is known keeps what no entry gives, and one who is not is new; and
    all else is as it was. -/
structure Founds (s : Session) (x : Step) (name : String) (members : List Member) : Prop where
  reply : (s.take x).1 = .ok (.answer (.team ⟨name, Member.roster members⟩))
  shown : ∀ y : Step, y.Asks (s.next x) (.showTeam (.text name)) → y.cue.fault = none →
    ((s.next x).take y).1 = .ok (.answer (.team ⟨name, Member.roster members⟩))
  others : ∀ team, team ≠ name → (s.next x).store.members team =
    (s.store.members team).filter (·.id ∉ members.map MemberEntry.userId)
  known : ∀ u ∈ s.store.users, ∀ m ∈ Member.last? members u.id,
    { u with
      name := m.username
      team := name
      active := m.active
      updatedAt := (s.arranged x.cue).clock } ∈ (s.next x).store.users
  fresh : ∀ id, (∀ u ∈ s.store.users, u.id ≠ id) → ∀ m ∈ Member.last? members id,
    ⟨id, m.username, name, m.active, (s.arranged x.cue).clock, (s.arranged x.cue).clock⟩ ∈
      (s.next x).store.users
  unnamed : ∀ u : User, u.id ∉ members.map MemberEntry.userId →
    (u ∈ (s.next x).store.users ↔ u ∈ s.store.users)
  frame : (s.next x).store =
    { s.store with
      teams := s.store.teams ++
        [⟨name, (s.arranged x.cue).clock, (s.arranged x.cue).clock⟩]
      users := (s.next x).store.users }

theorem founds_of_store (hs : s.store.Sound) (hl : s.store.Linked)
    (hn : s.store.team? name = none)
    (hr : (s.take x).1 = .ok (.answer (.team ⟨name, Member.roster members⟩)))
    (hstore : (s.next x).store = s.store.founded name members (s.arranged x.cue).clock) :
    s.Founds x name members := by
  have ht : (s.next x).store.Sound := hstore ▸ (Store.founded_edits hn).sound hs
  have hrow (id : String) : (s.next x).store.user? id = ((Member.last? members id).map
      (s.store.enrolled name (s.arranged x.cue).clock)).or (s.store.user? id) := by
    rw [hstore, Store.user?_founded]
  have hput (m : Member) (hm : Member.last? members m.userId = some m) :
      s.store.enrolled name (s.arranged x.cue).clock m ∈ (s.next x).store.users := by
    rw [ht.mem_users_iff, Store.enrolled_id, hrow, hm]
    rfl
  constructor
  case reply => exact hr
  case shown =>
    intro y hy hf
    let found : Team := ⟨name, (s.arranged x.cue).clock, (s.arranged x.cue).clock⟩
    have hfound : ((s.next x).scene y.cue).store.team? found.name = some found := by
      show (s.next x).store.team? name = _
      rw [hstore, Store.founded_eq, Store.team?, List.find?_append,
        show s.store.teams.find? (fun t => t.name = name) = none from hn]
      simp [found]
    have hmembers : ((s.next x).store.members name).map User.member = Member.roster members := by
      rw [hstore, Store.members_founded hs hl hn]
    have hshow := Desk.showTeam_answer (c := (s.next x).conditions y.site.settings.engine y.cue)
      hfound
    obtain ⟨a, ha, rfl⟩ := take_answered hy (spared_of_fault hf) hshow
    rw [ha, ← hmembers]
    rfl
  case others =>
    intro team hne
    rw [hstore, Store.members_founded_of_ne hs hn hne]
  case known =>
    intro u hu m hm
    obtain ⟨-, hid⟩ := Member.of_last? hm
    have hrow := hput m (hid ▸ hm)
    rwa [Store.enrolled_known (hid ▸ hs.user?_eq hu)] at hrow
  case fresh =>
    intro id hid m hm
    obtain ⟨-, rfl⟩ := Member.of_last? hm
    have hrow := hput m hm
    rwa [Store.enrolled_unknown (Store.user?_eq_none_iff.2 hid)] at hrow
  case unnamed =>
    intro u hu
    rw [ht.mem_users_iff, hs.mem_users_iff, hrow, Member.last?_eq_none_iff.2 hu]
    rfl
  case frame =>
    rw [hstore]
    exact Store.founded_eq

/-- **What becomes of a request to found a team.**  In a reachable session, and while no
    call goes wrong, it is refused if the name is taken.  Otherwise the team is founded,
    whichever users are submitted for it and however often. -/
theorem Reachable.team_founded (h : s.Reachable engine)
    (hx : x.Asks s (.createTeam (.text name) entries))
    (hall : entries.mapM MemberEntry.complete? = some members) (hf : x.cue.fault = none) :
    ((∃ t ∈ s.store.teams, t.name = name) → s.Refuses x ⟨.teamExists, ""⟩) ∧
    ((∀ t ∈ s.store.teams, t.name ≠ name) → s.Founds x name members) := by
  have hperform : Desk.performAny (.createTeam (.text name) entries) =
      .team <$> Desk.createTeam name members :=
    Desk.performAny_of_complete (Desk.complete?_createTeam hall)
  refine ⟨fun ⟨t, ht, he⟩ => ?_, fun hfresh => ?_⟩
  · have htaken : s.store.team? name ≠ none := fun hn => Store.team?_eq_none_iff.1 hn t ht he
    refine refuses_of_desk hx ?_
    rw [hperform]
    exact (Desk.createTeam_taken hf htaken).map
  · have hn : s.store.team? name = none := Store.team?_eq_none_iff.2 hfresh
    have hends : (Desk.performAny (.createTeam (.text name) entries)).Ends
        (s.conditions x.site.settings.engine x.cue) (s.scene x.cue)
        (fun a t => a = .team ⟨name, Member.roster members⟩ ∧
          t.store = s.store.founded name members (s.arranged x.cue).clock) fun _ _ => False := by
      rw [hperform]
      refine ends_map.2 (((Desk.createTeam_free hf hn).and Desk.createTeam_ends).mono ?_
        fun _ _ => And.left)
      rintro view t ⟨hteam, -, hstore, hview⟩
      have hmembers : view.members = Member.roster members := by
        rw [hview, hstore]
        exact Store.members_founded h.sound h.linked hn
      refine ⟨?_, hstore⟩
      rw [← hteam, ← hmembers]
    rcases take_of_desk hx (fun _ _ _ => False.elim) hends with ⟨_, hr, rfl, hstore⟩ | ⟨_, -, he⟩
    · exact founds_of_store h.sound h.linked hn hr hstore
    · exact he.elim

theorem team_founded_opening :
    let s := blank.along opening
    let members : List Member := [⟨"zoe", "Zoe", true⟩, ⟨"cyd", "Cyd", true⟩, ⟨"zoe", "Zo", false⟩]
    let x : Step := { action := .desk (.createTeam (.text "new")
      (members.map fun m => ⟨.text m.userId, .text m.username, m.active⟩)) }
    s.Founds x "new" members ∧
      Member.roster members = [⟨"cyd", "Cyd", true⟩, ⟨"zoe", "Zo", false⟩] := by
  intro s members x
  have hfresh : ∀ t ∈ (blank.along opening).store.teams, t.name ≠ "new" := by decide +kernel
  exact ⟨(reachable_opening.team_founded (.desk rfl) rfl rfl).2 hfresh, by decide +kernel⟩

end Session

end ReviewRota
