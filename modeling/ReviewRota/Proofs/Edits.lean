/-
  ReviewRota — edits of the store.

  Apart from opening a pull request, the desk changes the store in six ways.  Each
  is an edit with the rules that were checked before it, and what the desk does is
  a run of edits.  A reviewer who is replaced or dropped is one edit, so that the
  reviews and the history agree after every edit.

  * `Store.Edit` and `Store.Edits`: one edit, and some in a row;
  * `Store.Shows`: a view shows what is stored;
  * `Store.Opening`: a pull request is opened, and a view of it is answered;
  * `Store.Turn`: what one edit may do to one pull request, its reviews and its
    history; `Edit.turn` reads it off the edit;
  * `Store.Course`: turns in a row, and `Course.of_merged`: none changes what is
    merged;
  * `Edit.sound`, `Opening.sound`: the store stays sound;
  * `Store.founded`: a team is set up with its first members, which is a run of edits.
-/
import ReviewRota.Proofs.Rows
import ReviewRota.View

namespace ReviewRota

/-- The row of the pull request that a view shows. -/
def PullView.row (v : PullView) : PullRequest :=
  ⟨v.id, v.title, v.author, v.status, v.createdAt, v.mergedAt⟩

namespace Store

variable {s t : Store} {p q : PullRequest} {now : Moment}

/-- A view shows what is stored of a pull request: its row and, in some order, its
    reviewers. -/
structure Shows (s : Store) (v : PullView) : Prop where
  row : s.pull? v.id = some v.row
  reviewers : v.reviewers.Perm (s.reviewers v.id)

/-- The user may take over a review of the pull request. -/
structure MayJoin (s : Store) (p : PullRequest) (user : String) : Prop where
  stranger : user ≠ p.author
  fresh : user ∉ s.reviewers p.id
  active : ∃ u ∈ s.users, u.id = user ∧ u.active

/-- One change of the store, under the rules of the desk. -/
inductive Edit (now : Moment) (s : Store) : Store → Prop
  | addTeam {name} : s.team? name = none →
      Edit now s { s with teams := s.teams ++ [⟨name, now, now⟩] }
  | putMember {team m} : (s.team? team).isSome → Edit now s (s.putMember team m now)
  | setActive {user active} : Edit now s (s.setActive user active now)
  | switchOff {team} : Edit now s (s.switchOff team now)
  | merge {p : PullRequest} : p ∈ s.pulls → p.status = .opened →
      Edit now s (s.setStatus p.id .merged now)
  | handOver {p : PullRequest} {leaving joining} : p ∈ s.pulls → p.status = .opened →
      leaving ∈ s.reviewers p.id → (∀ j ∈ joining, s.MayJoin p j) →
      Edit now s (s.handOver p.id leaving joining now)

/-- Edits in a row. -/
abbrev Edits (now : Moment) : Store → Store → Prop := Relation.ReflTransGen (Edit now)

/-- A pull request opened by an active author, with reviewers picked among the
    author's active teammates, at most so many. -/
structure Opening (most : Int) (now : Moment) (s : Store) (view : PullView) (t : Store) : Prop where
  fresh : s.pull? view.id = none
  shown : view = ⟨view.id, view.title, view.author, .opened, view.reviewers, now, none⟩
  author : ∃ u ∈ s.users, u.id = view.author ∧ u.active ∧
    let pool := s.candidates { within := u.team, exclude := [view.author] }
    view.reviewers.Subperm pool ∧ view.reviewers.length = (min most pool.length).toNat
  result : t = s.opened view.row view.reviewers now

/-- What an edit may do to a pull request: it leaves it alone, it merges it, or it
    has a reviewer of it replaced or dropped. -/
inductive Turn (now : Moment) (s t : Store) (p : PullRequest) : PullRequest → Prop
  | kept : t.seats p.id = s.seats p.id → t.trail p.id = s.trail p.id → Turn now s t p p
  | merged : p.status = .opened → t.seats p.id = s.seats p.id → t.trail p.id = s.trail p.id →
      Turn now s t p (p.withStatus .merged now)
  | passed {leaving joining} : p.status = .opened → leaving ∈ s.reviewers p.id →
      (∀ j ∈ joining, s.MayJoin p j) →
      t.seats p.id = (s.handOver p.id leaving joining now).seats p.id →
      t.trail p.id = (s.handOver p.id leaving joining now).trail p.id → Turn now s t p p

theorem Turn.id_eq (h : Turn now s t p q) : q.id = p.id := by cases h <;> rfl

/-- A merged pull request is left alone. -/
theorem Turn.of_merged (h : Turn now s t p q) (hm : p.status = .merged) :
    q = p ∧ t.seats p.id = s.seats p.id ∧ t.trail p.id = s.trail p.id := by
  cases h with
  | kept h₁ h₂ => exact ⟨rfl, h₁, h₂⟩
  | merged ho => rw [hm] at ho; cases ho
  | passed ho => rw [hm] at ho; cases ho

/-! ## One edit, one pull request -/

theorem setStatus_pull_ids {id : String} {status : Status} :
    (s.setStatus id status now).pulls.map PullRequest.id = s.pulls.map PullRequest.id := by
  simp only [setStatus, List.map_map]
  refine List.map_congr_left fun p _ => ?_
  by_cases h : p.id = id <;> simp [h, PullRequest.withStatus]

theorem nodup_putMember_users {team : String} {m : Member} (h : (s.users.map User.id).Nodup) :
    ((s.putMember team m now).users.map User.id).Nodup := by
  unfold putMember
  cases hu : s.user? m.userId with
  | some u =>
    have he : (s.users.map fun u => if u.id = m.userId then u.submitted team m now else u).map
        User.id = s.users.map User.id := by
      rw [List.map_map]
      refine List.map_congr_left fun v _ => ?_
      by_cases hv : v.id = m.userId <;> simp [hv, User.submitted]
    simpa only [he] using h
  | none =>
    have hn : ∀ u ∈ s.users, u.id ≠ m.userId := by simpa [user?, List.find?_eq_none] using hu
    exact nodup_map_concat h hn

theorem setActive_user_ids {id : String} {active : Bool} :
    (s.setActive id active now).users.map User.id = s.users.map User.id := by
  simp only [setActive, List.map_map]
  refine List.map_congr_left fun u _ => ?_
  by_cases h : u.id = id ∧ u.active ≠ active <;> simp [h]

@[simp] theorem putMember_teams {team : String} {m : Member} :
    (s.putMember team m now).teams = s.teams := by unfold putMember; split <;> rfl

@[simp] theorem putMember_pulls {team : String} {m : Member} :
    (s.putMember team m now).pulls = s.pulls := by unfold putMember; split <;> rfl

@[simp] theorem putMember_assignments {team : String} {m : Member} :
    (s.putMember team m now).assignments = s.assignments := by unfold putMember; split <;> rfl

@[simp] theorem putMember_history {team : String} {m : Member} :
    (s.putMember team m now).history = s.history := by unfold putMember; split <;> rfl

/-- An edit neither adds nor removes pull requests. -/
theorem Edit.pull_ids (h : Edit now s t) :
    t.pulls.map PullRequest.id = s.pulls.map PullRequest.id := by
  cases h with
  | addTeam | setActive | switchOff => rfl
  | putMember => rw [putMember_pulls]
  | merge => exact setStatus_pull_ids
  | handOver => rw [handOver_pulls]

/-- The history only grows. -/
theorem Edit.history_prefix (h : Edit now s t) : s.history <+: t.history := by
  cases h with
  | addTeam | setActive | switchOff | merge => exact List.prefix_rfl
  | putMember => rw [putMember_history]
  | handOver => rw [handOver_history]; exact List.prefix_append _ _

/-- **What an edit does to one pull request.** -/
theorem Edit.turn (h : Edit now s t) (hs : s.Sound) (hp : p ∈ s.pulls) :
    ∃ q ∈ t.pulls, Turn now s t p q := by
  cases h with
  | addTeam | setActive | switchOff => exact ⟨p, hp, .kept rfl rfl⟩
  | putMember =>
    refine ⟨p, by rwa [putMember_pulls], .kept ?_ ?_⟩
    · rw [seats, putMember_assignments]; rfl
    · rw [trail, putMember_history]; rfl
  | @merge p' hp' ho =>
    by_cases he : p.id = p'.id
    · obtain rfl := hs.pull_eq hp hp' he
      exact ⟨_, List.mem_map.2 ⟨p, hp, if_pos rfl⟩, .merged ho rfl rfl⟩
    · exact ⟨p, List.mem_map.2 ⟨p, hp, if_neg he⟩, .kept rfl rfl⟩
  | @handOver p' leaving joining hp' ho hl hj =>
    refine ⟨p, by rwa [handOver_pulls], ?_⟩
    by_cases he : p.id = p'.id
    · obtain rfl := hs.pull_eq hp hp' he
      exact .passed ho hl hj rfl rfl
    · exact .kept (seats_handOver_of_ne he) (trail_handOver_of_ne he)

/-! ## Soundness -/

theorem nodup_passed {rs : List String} {leaving : String} {joining : Option String} (h : rs.Nodup)
    (hj : ∀ j ∈ joining, j ∉ rs) : (joining.toList ++ rs.filter (· ≠ leaving)).Nodup := by
  cases joining with
  | none => exact h.filter _
  | some j => exact List.nodup_cons.2 ⟨fun hm => hj j rfl (List.mem_of_mem_filter hm), h.filter _⟩

theorem Edit.sound (h : Edit now s t) (hs : s.Sound) : t.Sound := by
  have hids := h.pull_ids
  have hin : ∀ id, (∃ p ∈ s.pulls, p.id = id) → ∃ p ∈ t.pulls, p.id = id := fun id => by
    simpa only [← List.mem_map, hids] using fun h => h
  refine ⟨?_, hids ▸ hs.pulls, fun id => ?_, fun a ha => hin _ ?_, fun a ha => hin _ ?_⟩
  · cases h with
    | addTeam | merge => exact hs.users
    | putMember => exact nodup_putMember_users hs.users
    | setActive => rw [setActive_user_ids]; exact hs.users
    | switchOff => rw [switchOff_user_ids]; exact hs.users
    | handOver => rw [handOver_users]; exact hs.users
  · cases h with
    | addTeam | merge | setActive | switchOff => exact hs.once id
    | putMember => rw [reviewers, putMember_assignments]; exact hs.once id
    | @handOver p leaving joining _ _ _ hj =>
      by_cases he : id = p.id
      · subst he
        refine reviewers_handOver_perm.nodup_iff.2 (nodup_passed (hs.once _) fun j h => ?_)
        exact (hj j h).fresh
      · rw [reviewers_congr (seats_handOver_of_ne he)]; exact hs.once id
  · cases h with
    | addTeam | merge | setActive | switchOff => exact hs.seated a ha
    | putMember => rw [putMember_assignments] at ha; exact hs.seated a ha
    | handOver hp =>
      rcases mem_assignments_handOver ha with he | ha
      · exact ⟨_, hp, he.symm⟩
      · exact hs.seated a ha
  · cases h with
    | addTeam | merge | setActive | switchOff => exact hs.recorded a ha
    | putMember => rw [putMember_history] at ha; exact hs.recorded a ha
    | handOver hp =>
      rw [handOver_history] at ha
      rcases List.mem_append.1 ha with ha | ha
      · exact hs.recorded a ha
      · exact ⟨_, hp, by rw [List.mem_singleton.1 ha]⟩

theorem Edits.sound (h : Edits now s t) (hs : s.Sound) : t.Sound := by
  induction h with
  | refl => exact hs
  | tail _ he ih => exact he.sound ih

theorem Edits.pull_ids (h : Edits now s t) :
    t.pulls.map PullRequest.id = s.pulls.map PullRequest.id := by
  induction h with
  | refl => rfl
  | tail _ he ih => exact he.pull_ids.trans ih

theorem Edits.history_prefix (h : Edits now s t) : s.history <+: t.history := by
  induction h with
  | refl => exact List.prefix_rfl
  | tail _ he ih => exact ih.trans he.history_prefix

variable {most : Int} {view : PullView}

theorem Opening.sound (h : Opening most now s view t) (hs : s.Sound) : t.Sound := by
  obtain ⟨hf, -, ⟨u, -, -, -, hsub, -⟩, rfl⟩ := h
  refine ⟨hs.users, nodup_map_concat hs.pulls (pull?_eq_none_iff.1 hf), fun id => ?_,
    fun a ha => ?_, fun a ha => ?_⟩
  · by_cases he : id = view.id
    · subst he
      obtain ⟨l, hl, hsub⟩ := hsub
      exact (reviewers_opened_perm (hs.seats_eq_nil hf)).nodup_iff.2
        (hl.nodup_iff.1 ((hs.nodup_candidates _).sublist hsub))
    · rw [reviewers_congr (seats_opened_of_ne he)]; exact hs.once id
  · rcases List.mem_append.1 ha with ha | ha
    · obtain ⟨p, hp, he⟩ := hs.seated a ha
      exact ⟨p, List.mem_append_left _ hp, he⟩
    · obtain ⟨r, -, rfl⟩ := List.mem_map.1 ha
      exact ⟨_, List.mem_append_right _ (List.mem_singleton_self _), rfl⟩
  · obtain ⟨p, hp, he⟩ := hs.recorded a ha
    exact ⟨p, List.mem_append_left _ hp, he⟩

/-- What is answered when a pull request is opened is what is stored. -/
theorem Opening.shows (h : Opening most now s view t) (hs : s.Sound) : t.Shows view := by
  have hsound : t.Sound := h.sound hs
  obtain ⟨hf, -, -, rfl⟩ := h
  exact ⟨hsound.pull?_eq (List.mem_append_right _ (List.mem_singleton_self _)),
    (reviewers_opened_perm (p := view.row) (hs.seats_eq_nil hf)).symm⟩

/-- What is open or merged already is left alone when a pull request is opened. -/
theorem Opening.turn (h : Opening most now s view t) (hp : p ∈ s.pulls) :
    p ∈ t.pulls ∧ Turn now s t p p := by
  obtain ⟨hf, -, -, rfl⟩ := h
  have hne : p.id ≠ view.id := pull?_eq_none_iff.1 hf p hp
  exact ⟨List.mem_append_left _ hp, .kept (seats_opened_of_ne hne) rfl⟩

/-! ## A new team -/

/-- The store with a new team, into which the members are put one after another. -/
def founded (s : Store) (name : String) (members : List Member) (now : Moment) : Store :=
  members.foldl (fun s m => s.putMember name m now)
    { s with teams := s.teams ++ [⟨name, now, now⟩] }

theorem putAll_edits {team : String} {members : List Member} (h : (s.team? team).isSome) :
    Edits now s (members.foldl (fun s m => s.putMember team m now) s) := by
  induction members generalizing s with
  | nil => exact .refl
  | cons m members ih =>
    refine .head (.putMember h) (ih ?_)
    rwa [team?, putMember_teams]

theorem putAll_teams {team : String} {members : List Member} :
    (members.foldl (fun s m => s.putMember team m now) s).teams = s.teams := by
  induction members generalizing s with
  | nil => rfl
  | cons m members ih => exact ih.trans putMember_teams

theorem putAll_pulls {team : String} {members : List Member} :
    (members.foldl (fun s m => s.putMember team m now) s).pulls = s.pulls := by
  induction members generalizing s with
  | nil => rfl
  | cons m members ih => exact ih.trans putMember_pulls

theorem putAll_assignments {team : String} {members : List Member} :
    (members.foldl (fun s m => s.putMember team m now) s).assignments = s.assignments := by
  induction members generalizing s with
  | nil => rfl
  | cons m members ih => exact ih.trans putMember_assignments

theorem founded_edits {name : String} {members : List Member} (h : s.team? name = none) :
    Edits now s (s.founded name members now) :=
  .head (.addTeam h) (putAll_edits (by simp [team?]))

/-! ## The course of a pull request -/

/-- What becomes of a pull request, turn by turn, each at a time of its own. -/
abbrev Course : Store × PullRequest → Store × PullRequest → Prop :=
  Relation.ReflTransGen fun a b => ∃ now, Turn now a.1 b.1 a.2 b.2

theorem Course.id_eq {a b : Store × PullRequest} (h : Course a b) : b.2.id = a.2.id := by
  induction h with
  | refl => rfl
  | tail _ hn ih => obtain ⟨_, hn⟩ := hn; exact hn.id_eq.trans ih

theorem Course.of_merged {a b : Store × PullRequest} (h : Course a b) (hm : a.2.status = .merged) :
    b.2 = a.2 ∧ b.1.seats a.2.id = a.1.seats a.2.id ∧ b.1.trail a.2.id = a.1.trail a.2.id := by
  induction h with
  | refl => exact ⟨rfl, rfl, rfl⟩
  | tail _ hn ih =>
    obtain ⟨_, hn⟩ := hn
    obtain ⟨he, hseats, htrail⟩ := ih
    obtain ⟨he', hseats', htrail'⟩ := hn.of_merged (he ▸ hm)
    rw [he] at he' hseats' htrail'
    exact ⟨he', hseats'.trans hseats, htrail'.trans htrail⟩

theorem Edits.course (h : Edits now s t) (hs : s.Sound) (hp : p ∈ s.pulls) :
    ∃ q ∈ t.pulls, Course (s, p) (t, q) := by
  induction h with
  | refl => exact ⟨p, hp, .refl⟩
  | tail h he ih =>
    obtain ⟨q, hq, hc⟩ := ih
    obtain ⟨r, hr, hn⟩ := he.turn (Edits.sound h hs) hq
    exact ⟨r, hr, hc.tail ⟨now, hn⟩⟩

end Store

end ReviewRota
