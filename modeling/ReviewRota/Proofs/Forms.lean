/-
  ReviewRota — what is asked from outside.

  A request from outside is addressed by its method and its path, and it fills in a form:
  the table of its body, or that of its query.  What it asks of the service is said here
  in terms of the address and of the entries of the form, under the names that clients
  know, and this is what the routes read.

  * `Fields.Gives` and `Fields.GivesOr`: an entry of a form, and one with a value in its
    place;
  * `Route.ofPath?_eq_some`: which paths have a route;
  * `Http.Incoming.Asks`: what a request from outside asks for;
  * `Http.Incoming.Asks.call?` and `Http.Incoming.asks_of_call?`: the calls of the service
    that are read from it.
-/
import ReviewRota.Proofs.Gateway
import ReviewRota.Proofs.Tables

namespace ReviewRota

variable {α β : Type}

/-! ## Readings -/

namespace Reading

variable {f : α → β} {x : Reading α} {a : α} {b : β}

@[simp] theorem map_eq_value : Reading.map f x = .value b ↔ ∃ a, x = .value a ∧ f a = b := by
  cases x <;> simp [Reading.map]

@[simp] theorem seq_eq_value {g : Reading (α → β)} :
    Reading.seq g x = .value b ↔ ∃ f, g = .value f ∧ ∃ a, x = .value a ∧ f a = b := by
  cases g <;> cases x <;> simp [Reading.seq]

@[simp] theorem fmap_eq_map : f <$> x = Reading.map f x := rfl

@[simp] theorem apply_eq_seq {g : Reading (α → β)} : g <*> x = Reading.seq g x := rfl

theorem under_eq_value {name : String} : x.under name = .value a ↔ x = .value a := by
  cases x <;> simp [under]

theorem all_eq_value {rs : List (Reading α)} {as : List α} :
    Reading.all rs = .value as ↔ List.Forall₂ (fun r a => r = .value a) rs as := by
  induction rs generalizing as with
  | nil => simp [all, eq_comm]
  | cons r rs ih =>
    simp only [all, seq_eq_value, map_eq_value, List.forall₂_cons_left_iff, ih]
    constructor
    · rintro ⟨_, ⟨a, ha, rfl⟩, as, has, rfl⟩
      exact ⟨a, as, ha, has, rfl⟩
    · rintro ⟨a, as, ha, has, rfl⟩
      exact ⟨_, ⟨a, ha, rfl⟩, as, has, rfl⟩

/-- A list is read item by item. -/
theorem listOf_eq_value {read : Datum → Reading α} {d : Datum} {as : List α} :
    listOf read d = .value as ↔
      ∃ ds, d = .list ds ∧ List.Forall₂ (fun d a => read d = .value a) ds as := by
  cases d with
  | list ds =>
    simp only [listOf, all_eq_value, Datum.list.injEq, exists_eq_left']
    rw [List.forall₂_iff_get, List.forall₂_iff_get]
    simp [under_eq_value]
  | _ => simp [listOf, flaw]

end Reading

/-! ## Entries of forms -/

namespace Fields

variable {fs : Fields} {name : String} {reader : Datum → Reading α} {a default : α}

/-- There is an entry of the name, and it reads as the value. -/
def Gives (fs : Fields) (name : String) (reader : Datum → Reading α) (a : α) : Prop :=
  ∃ d, fs.get? name = some d ∧ reader d = .value a

/-- The entry of the name reads as the value; if there is none, it is the given one. -/
def GivesOr (fs : Fields) (name : String) (default : α) (reader : Datum → Reading α) (a : α) :
    Prop :=
  fs.Gives name reader a ∨ fs.get? name = none ∧ a = default

@[simp] theorem read_eq_value : fs.read name reader = .value a ↔ fs.Gives name reader a := by
  unfold Fields.read Gives
  cases fs.get? name <;> simp [Reading.under_eq_value]

@[simp] theorem readOr_eq_value :
    fs.readOr name default reader = .value a ↔ fs.GivesOr name default reader a := by
  unfold readOr GivesOr Gives
  cases fs.get? name <;> simp [Reading.under_eq_value, eq_comm]

end Fields

/-- The value is the table of a member of a team, who is active unless it says otherwise. -/
inductive MemberEntry.In (m : MemberEntry Argument) : Datum → Prop
  | table {fs : Fields} : fs.Gives "user_id" Argument.read m.userId →
      fs.Gives "username" Argument.read m.username →
      fs.GivesOr "is_active" true Reading.flag m.active → In m (.table fs)

theorem MemberEntry.read_eq_value {d : Datum} {m : MemberEntry Argument} :
    MemberEntry.read d = .value m ↔ m.In d := by
  constructor
  · intro h
    cases d with
    | table fs =>
      simp only [MemberEntry.read, readFields, Reading.fmap_eq_map, Reading.apply_eq_seq,
        Reading.seq_eq_value, Reading.map_eq_value, Fields.read_eq_value,
        Fields.readOr_eq_value] at h
      obtain ⟨_, ⟨_, ⟨id, hid, rfl⟩, name, hname, rfl⟩, active, hactive, rfl⟩ := h
      exact .table hid hname hactive
    | _ => cases h
  · rintro ⟨hid, hname, hactive⟩
    rw [← Fields.read_eq_value] at hid hname
    rw [← Fields.readOr_eq_value] at hactive
    simp only [MemberEntry.read, readFields, hid, hname, hactive]
    rfl

/-- The members that a form lists; without a list there are none. -/
def Fields.Lists (fs : Fields) (members : List (MemberEntry Argument)) : Prop :=
  (∃ ds, fs.get? "members" = some (.list ds) ∧ List.Forall₂ (fun d m => m.In d) ds members) ∨
    fs.get? "members" = none ∧ members = []

@[simp] theorem Fields.givesOr_members {fs : Fields} {members : List (MemberEntry Argument)} :
    fs.GivesOr "members" [] (Reading.listOf MemberEntry.read) members ↔ fs.Lists members := by
  simp only [GivesOr, Gives, Lists, Reading.listOf_eq_value, MemberEntry.read_eq_value]
  refine or_congr ⟨?_, ?_⟩ Iff.rfl
  · rintro ⟨_, hget, ds, rfl, hall⟩
    exact ⟨ds, hget, hall⟩
  · rintro ⟨ds, hget, hall⟩
    exact ⟨_, hget, ds, rfl, hall⟩

namespace Http

/-! ## Routes -/

namespace Route

variable {path beginning id : String} {route : Route}

theorem withoutBreak_cases (path : String) :
    path = withoutBreak path ∨ path = withoutBreak path ++ "\n" := by
  unfold withoutBreak
  dsimp only
  split
  next h =>
    right
    rw [← String.toList_inj, String.toList_append, String.toList_ofList]
    exact (List.dropLast_append_getLast? _ h).symm
  next => exact .inl rfl

theorem idAfter?_eq_some : idAfter? beginning path = some id ↔
    path = beginning ++ id ∧ id ≠ "" ∧ '/' ∉ id.toList := by
  unfold idAfter?
  dsimp only
  constructor
  · intro h
    split at h
    next hp =>
      obtain ⟨hstarts, hne, hslash⟩ := hp
      obtain ⟨rest, hrest⟩ := List.isPrefixOf_iff_prefix.1 hstarts
      rw [← hrest, ← String.length_toList, List.drop_left] at h hne hslash
      obtain rfl := Option.some.inj h
      refine ⟨?_, ?_, ?_⟩
      · rw [← String.toList_inj, String.toList_append, String.toList_ofList, hrest]
      · rwa [Ne, ← String.toList_inj, String.toList_ofList]
      · simpa using hslash
    next => cases h
  · rintro ⟨rfl, hne, hslash⟩
    rw [String.toList_append, ← String.length_toList, List.drop_left, String.ofList_toList]
    refine if_pos ⟨?_, ?_, by simpa using hslash⟩
    · exact List.isPrefixOf_iff_prefix.2 (List.prefix_append _ _)
    · rwa [Ne, ← String.toList_inj] at hne

/-- The fixed paths are found, with a line break at the end or without. -/
theorem lookup_fixed : ∀ e ∈ fixed, withoutBreak e.1 = e.1 ∧ withoutBreak (e.1 ++ "\n") = e.1 ∧
    fixed.lookup e.1 = some e.2 := by decide +kernel

/-- How the paths begin that end in an id. -/
def beginnings : List String := ["/stats/reviewer/", "/stats/pr/"]

/-- No fixed path goes on as the paths with an id do, and these do not go on as each other. -/
theorem beginnings_apart : ∀ b ∈ beginnings,
    (∀ e ∈ fixed, ¬ b.toList <+: (e.1 ++ "\n").toList) ∧
    ∀ b' ∈ beginnings, b.toList <+: b'.toList → b = b' := by decide +kernel

theorem starts_append {a b : String} : a.toList <+: (a ++ b).toList := by
  rw [String.toList_append]
  exact List.prefix_append _ _

theorem ofPath?_fixed {p : String} (h : (p, route) ∈ fixed) (hpath : path = p ∨ path = p ++ "\n") :
    ofPath? path = some route := by
  obtain ⟨hsame, hbreak, hlookup⟩ := lookup_fixed _ h
  have hfound : fixed.lookup (withoutBreak path) = some route := by
    rcases hpath with rfl | rfl
    · rw [hsame, hlookup]
    · rw [hbreak, hlookup]
  unfold ofPath?
  rw [hfound]
  rfl

theorem ne_fixed {p : String} (h : (p, route) ∈ fixed) (hb : beginning ∈ beginnings) :
    ¬ (beginning ++ id = p ∨ beginning ++ id = p ++ "\n") := by
  intro hpath
  refine (beginnings_apart beginning hb).1 _ h ?_
  have hstarts : beginning.toList <+: (beginning ++ id).toList := starts_append
  rcases hpath with hpath | hpath
  · rw [hpath] at hstarts
    exact hstarts.trans starts_append
  · rwa [hpath] at hstarts

theorem lookup_of_id (hb : beginning ∈ beginnings) :
    fixed.lookup (withoutBreak (beginning ++ id)) = none := by
  refine lookup_eq_none fun e he h => ?_
  have hpath := withoutBreak_cases (beginning ++ id)
  rw [← h] at hpath
  exact ne_fixed he hb hpath

/-- A path that ends in an id ends in no other. -/
theorem beginning_append_inj {beginning' id' : String} (hb : beginning ∈ beginnings)
    (hb' : beginning' ∈ beginnings) (h : beginning ++ id = beginning' ++ id') :
    beginning = beginning' ∧ id = id' := by
  have hstarts : beginning.toList <+: (beginning ++ id).toList := starts_append
  have hstarts' : beginning'.toList <+: (beginning ++ id).toList := by
    rw [h]
    exact starts_append
  have hsame : beginning = beginning' := by
    rcases List.prefix_or_prefix_of_prefix hstarts hstarts' with hp | hp
    · exact (beginnings_apart beginning hb).2 _ hb' hp
    · exact ((beginnings_apart beginning' hb').2 _ hb hp).symm
  subst hsame
  rw [← String.toList_inj, String.toList_append, String.toList_append, List.append_cancel_left_eq,
    String.toList_inj] at h
  exact ⟨rfl, h⟩

theorem idAfter?_reviewer_pull : idAfter? "/stats/reviewer/" ("/stats/pr/" ++ id) = none := by
  by_contra h
  obtain ⟨other, h⟩ := Option.ne_none_iff_exists'.1 h
  have hpath := (idAfter?_eq_some.1 h).1
  have hsame := (beginning_append_inj (by decide) (by decide) hpath).1
  exact absurd hsame (by decide)

/-- **Which paths have a route.** -/
theorem ofPath?_eq_some : ofPath? path = some route ↔
    (∃ p, (p, route) ∈ fixed ∧ (path = p ∨ path = p ++ "\n")) ∨
    ∃ id, id ≠ "" ∧ '/' ∉ id.toList ∧ (route = reviewer id ∧ path = "/stats/reviewer/" ++ id ∨
      route = pull id ∧ path = "/stats/pr/" ++ id) := by
  constructor
  · intro h
    unfold ofPath? at h
    cases hfixed : fixed.lookup (withoutBreak path) with
    | some other =>
      rw [hfixed] at h
      obtain rfl := Option.some.inj h
      exact .inl ⟨_, mem_of_lookup hfixed, withoutBreak_cases path⟩
    | none =>
      rw [hfixed] at h
      cases hreviewer : idAfter? "/stats/reviewer/" path with
      | some id =>
        rw [hreviewer] at h
        obtain rfl := Option.some.inj h
        obtain ⟨hpath, hne, hslash⟩ := idAfter?_eq_some.1 hreviewer
        exact .inr ⟨id, hne, hslash, .inl ⟨rfl, hpath⟩⟩
      | none =>
        rw [hreviewer] at h
        obtain ⟨id, hpull, rfl⟩ := Option.map_eq_some_iff.1 h
        obtain ⟨hpath, hne, hslash⟩ := idAfter?_eq_some.1 hpull
        exact .inr ⟨id, hne, hslash, .inr ⟨rfl, hpath⟩⟩
  · rintro (⟨p, hp, hpath⟩ | ⟨id, hne, hslash, ⟨rfl, rfl⟩ | ⟨rfl, rfl⟩⟩)
    · exact ofPath?_fixed hp hpath
    · unfold ofPath?
      rw [lookup_of_id (by decide), idAfter?_eq_some.2 ⟨rfl, hne, hslash⟩]
      rfl
    · unfold ofPath?
      rw [lookup_of_id (by decide), idAfter?_reviewer_pull, idAfter?_eq_some.2 ⟨rfl, hne, hslash⟩]
      rfl

/-- No route takes a path that ends in more than one step. -/
theorem ofPath?_eq_none (hb : beginning ∈ beginnings) (h : '/' ∈ id.toList) :
    ofPath? (beginning ++ id) = none := by
  by_contra hroute
  obtain ⟨route, hroute⟩ := Option.ne_none_iff_exists'.1 hroute
  rcases ofPath?_eq_some.1 hroute with ⟨p, hp, hpath⟩ | ⟨id', -, hslash, ⟨-, hpath⟩ | ⟨-, hpath⟩⟩
  · exact ne_fixed hp hb hpath
  · exact hslash ((beginning_append_inj hb (by decide) hpath).2 ▸ h)
  · exact hslash ((beginning_append_inj hb (by decide) hpath).2 ▸ h)

/-- No two routes share a fixed path. -/
theorem fixed_injective : ∀ e ∈ fixed, ∀ e' ∈ fixed, e.2 = e'.2 → e.1 = e'.1 := by decide +kernel

theorem ofPath?_eq_fixed {p : String} (h : (p, route) ∈ fixed) :
    ofPath? path = some route ↔ path = p ∨ path = p ++ "\n" := by
  refine ⟨fun hroute => ?_, ofPath?_fixed h⟩
  rcases ofPath?_eq_some.1 hroute with ⟨p', hp', hpath⟩ | ⟨id, -, -, ⟨rfl, -⟩ | ⟨rfl, -⟩⟩
  · obtain rfl := fixed_injective _ hp' _ h rfl
    exact hpath
  · simp [fixed] at h
  · simp [fixed] at h

theorem ofPath?_eq_reviewer : ofPath? path = some (reviewer id) ↔
    id ≠ "" ∧ '/' ∉ id.toList ∧ path = "/stats/reviewer/" ++ id := by
  simp [ofPath?_eq_some, fixed]

theorem ofPath?_eq_pull : ofPath? path = some (pull id) ↔
    id ≠ "" ∧ '/' ∉ id.toList ∧ path = "/stats/pr/" ++ id := by
  simp [ofPath?_eq_some, fixed]

end Route

variable {origins : List String} {r : Incoming} {call : Call} {route : Route}

theorem resolve_eq_taken {method path : String} : resolve method path = .taken route ↔
    Route.ofPath? path = some route ∧ route.method = method := by
  unfold resolve
  split
  next other h =>
    rw [h, Option.some.injEq]
    split
    next hmethod => simp only [Resolution.taken.injEq, iff_self_and]; rintro rfl; exact hmethod
    next hmethod => simp only [reduceCtorEq, false_iff, not_and]; rintro rfl; exact hmethod
  next h =>
    rw [h]
    dsimp only
    split <;> simp

/-- Only a request with the method for it is one that asks about other origins. -/
theorem preflight?_eq_none (h : r.method ≠ "OPTIONS") : Cors.preflight? origins r = none := by
  unfold Cors.preflight?
  cases r.header? "origin" <;> cases r.header? "access-control-request-method" <;> simp [h]

/-- The calls that are read, route by route. -/
theorem Incoming.call?_eq_some : r.call? origins = some call ↔
    ∃ route, Route.ofPath? r.target.path = some route ∧ route.method = r.method ∧
      route.read? r = some call := by
  constructor
  · intro h
    unfold Incoming.call? at h
    split at h
    next route _ hresolve =>
      obtain ⟨hpath, hmethod⟩ := resolve_eq_taken.1 hresolve
      exact ⟨route, hpath, hmethod, h⟩
    next => cases h
  · rintro ⟨route, hpath, hmethod, hread⟩
    have hpreflight : Cors.preflight? origins r = none := by
      refine preflight?_eq_none ?_
      rw [← hmethod]
      cases route <;> simp [Route.method]
    unfold Incoming.call?
    rw [hpreflight, resolve_eq_taken.2 ⟨hpath, hmethod⟩]
    exact hread

/-! ## What is asked -/

namespace Incoming

/-- The request is sent to the path; a line break at its end does not count. -/
def SentTo (r : Incoming) (method path : String) : Prop :=
  r.method = method ∧ (r.target.path = path ∨ r.target.path = path ++ "\n")

/-- The request is sent to the path that ends in the id, which is one step of it. -/
def SentToId (r : Incoming) (beginning id : String) : Prop :=
  r.method = "GET" ∧ r.target.path = beginning ++ id ∧ id ≠ "" ∧ '/' ∉ id.toList

/-- The body of the request is a table with these entries. -/
def Fills (r : Incoming) (fs : Fields) : Prop := readBody r = .document (.table fs)

/-- What a request from outside asks of the service, by its address and the entries of its
    form.  The blanks around the name of a team to switch off are left out; all else is
    asked as it is given. -/
inductive Asks (r : Incoming) : Request Argument → Prop
  | createTeam {fs team members} : r.SentTo "POST" "/team/add" → r.Fills fs →
      fs.Gives "team_name" Argument.read team → fs.Lists members →
      Asks r (.createTeam team members)
  | showTeam {team} : r.SentTo "GET" "/team/get" → r.query.Gives "team_name" Reading.text team →
      Asks r (.showTeam (.text team))
  | deactivateTeam {fs team} : r.SentTo "POST" "/team/deactivate" → r.Fills fs →
      fs.Gives "team_name" Argument.read team → Asks r (.deactivateTeam team.trimmed)
  | setUserActive {fs user active} : r.SentTo "POST" "/users/setIsActive" → r.Fills fs →
      fs.Gives "user_id" Argument.read user → fs.Gives "is_active" Reading.flag active →
      Asks r (.setUserActive user active)
  | reviewsOf {user} : r.SentTo "GET" "/users/getReview" →
      r.query.Gives "user_id" Reading.text user → Asks r (.reviewsOf (.text user))
  | openPull {fs pull title author} : r.SentTo "POST" "/pullRequest/create" → r.Fills fs →
      fs.Gives "pull_request_id" Argument.read pull →
      fs.Gives "pull_request_name" Argument.read title →
      fs.Gives "author_id" Argument.read author → Asks r (.openPull pull title author)
  | merge {fs pull} : r.SentTo "POST" "/pullRequest/merge" → r.Fills fs →
      fs.Gives "pull_request_id" Argument.read pull → Asks r (.merge pull)
  | replaceReviewer {fs pull leaving} : r.SentTo "POST" "/pullRequest/reassign" → r.Fills fs →
      fs.Gives "pull_request_id" Argument.read pull →
      fs.Gives "old_user_id" Argument.read leaving → Asks r (.replaceReviewer pull leaving)
  | overview : r.SentTo "GET" "/stats" → Asks r .overview
  | summary {filter} : r.SentTo "GET" "/stats/summary" →
      r.query.GivesOr "from" none (Reading.optional Reading.moment) filter.window.since →
      r.query.GivesOr "to" none (Reading.optional Reading.moment) filter.window.upTo →
      r.query.GivesOr "status" none (Reading.optional Reading.status) filter.window.status →
      r.query.GivesOr "limit" 0 Reading.integer filter.limit → Asks r (.summary filter)
  | reviewerReport {user limit} : r.SentToId "/stats/reviewer/" user →
      r.query.GivesOr "limit" 0 Reading.integer limit → Asks r (.reviewerReport (.text user) limit)
  | pullReport {pull} : r.SentToId "/stats/pr/" pull → Asks r (.pullReport (.text pull))

end Incoming

/-- The status of the answer to a request that succeeds. -/
def successOf : Request Argument → Nat
  | .createTeam .. | .openPull .. => 201
  | _ => 200

theorem successOf_cases (q : Request Argument) : successOf q = 200 ∨ successOf q = 201 := by
  cases q <;> simp [successOf]

/-- What is bound to the log of a request. -/
def boundBy : Request Argument → Fields
  | .createTeam team _ | .deactivateTeam team => [("team_name", team.datum)]
  | .setUserActive user _ => [("user_id", user.datum)]
  | .openPull pull _ _ | .merge pull | .replaceReviewer pull _ => [("pr_id", pull.datum)]
  | _ => []

/-- The document of the answer to a request that succeeds. -/
def documentOf : Request Argument → Answer → Datum
  | .createTeam .. => enclosed "team"
  | .setUserActive .. => enclosed "user"
  | .reviewsOf user => fun a => .table [("user_id", user.datum), ("pull_requests", answerDatum a)]
  | _ => answerDatum

/-- The call of the service for a request. -/
def Call.of (q : Request Argument) : Call where
  request := q
  bound := boundBy q
  status := successOf q
  document := documentOf q

theorem form_eq_value {read : Fields → Reading α} {body : Body} {a : α} :
    body.form read = .value a ↔ ∃ fs, body = .document (.table fs) ∧ read fs = .value a := by
  cases body with
  | document d => cases d <;> simp [Body.form, Reading.flaw]
  | _ => simp [Body.form, Reading.flaw]

theorem read?_eq_some {body : Body} {reading : Reading Call}
    (h : route.call? r = some (body, reading)) :
    route.read? r = some call ↔ reading = .value call := by
  unfold Route.read?
  rw [h]
  cases reading <;> simp

/-- What a route reads from a body. -/
theorem read?_body {read : Fields → Reading Call}
    (h : route.call? r = some (readBody r, (readBody r).form read)) :
    route.read? r = some call ↔ ∃ fs, r.Fills fs ∧ read fs = .value call :=
  (read?_eq_some h).trans form_eq_value

/-! ## The calls -/

section Calls

variable {fs : Fields}

theorem addTeamCall_eq_value : addTeamCall fs = .value call ↔
    ∃ team, fs.Gives "team_name" Argument.read team ∧ ∃ members, fs.Lists members ∧
      .of (.createTeam team members) = call := by
  simp [addTeamCall, Call.of, boundBy, successOf, documentOf]

theorem setActiveCall_eq_value : setActiveCall fs = .value call ↔
    ∃ user, fs.Gives "user_id" Argument.read user ∧
      ∃ active, fs.Gives "is_active" Reading.flag active ∧
        .of (.setUserActive user active) = call := by
  simp [setActiveCall, Call.of, boundBy, successOf, documentOf]

theorem openPullCall_eq_value : openPullCall fs = .value call ↔
    ∃ pull, fs.Gives "pull_request_id" Argument.read pull ∧
      ∃ title, fs.Gives "pull_request_name" Argument.read title ∧
        ∃ author, fs.Gives "author_id" Argument.read author ∧
          .of (.openPull pull title author) = call := by
  simp [openPullCall, Call.of, boundBy, successOf, documentOf]

theorem reassignCall_eq_value : reassignCall fs = .value call ↔
    ∃ pull, fs.Gives "pull_request_id" Argument.read pull ∧
      ∃ leaving, fs.Gives "old_user_id" Argument.read leaving ∧
        .of (.replaceReviewer pull leaving) = call := by
  simp [reassignCall, Call.of, boundBy, successOf, documentOf]

theorem mergeCall_eq_value : callOn "pr_id" "pull_request_id" .merge fs = .value call ↔
    ∃ pull, fs.Gives "pull_request_id" Argument.read pull ∧ .of (.merge pull) = call := by
  simp [callOn, Call.of, boundBy, successOf, documentOf]

theorem deactivateTeamCall_eq_value : deactivateTeamCall fs = .value call ↔
    ∃ team, fs.Gives "team_name" Argument.read team ∧
      .of (.deactivateTeam team.trimmed) = call := by
  simp [deactivateTeamCall, Call.of, boundBy, successOf, documentOf]

theorem reviewsCall_eq_value : reviewsCall fs = .value call ↔
    ∃ user, fs.Gives "user_id" Reading.text user ∧ .of (.reviewsOf (.text user)) = call := by
  simp [reviewsCall, Call.of, boundBy, successOf, documentOf, Argument.datum]

theorem readFields_eq_value {since upTo : String} {filter : SummaryFilter} :
    SummaryFilter.readFields since upTo fs = .value filter ↔
      fs.GivesOr since none (Reading.optional Reading.moment) filter.window.since ∧
      fs.GivesOr upTo none (Reading.optional Reading.moment) filter.window.upTo ∧
      fs.GivesOr "status" none (Reading.optional Reading.status) filter.window.status ∧
      fs.GivesOr "limit" 0 Reading.integer filter.limit := by
  obtain ⟨⟨since, upTo, status⟩, limit⟩ := filter
  simp [SummaryFilter.readFields, and_assoc]

end Calls

variable {q : Request Argument}

/-- A request to a fixed path makes the call that its route reads. -/
theorem Incoming.SentTo.call? {p : String} (route : Route) (h : r.SentTo route.method p)
    (hp : (p, route) ∈ Route.fixed) (hread : route.read? r = some call) :
    r.call? origins = some call :=
  call?_eq_some.2 ⟨route, (Route.ofPath?_eq_fixed hp).2 h.2, h.1.symm, hread⟩

/-- A request to a path that ends in an id makes the call that its route reads. -/
theorem Incoming.SentToId.call? {beginning id : String} (h : r.SentToId beginning id)
    (hroute : Route.ofPath? (beginning ++ id) = some route) (hm : route.method = "GET")
    (hread : route.read? r = some call) : r.call? origins = some call :=
  call?_eq_some.2 ⟨route, h.2.1 ▸ hroute, hm.trans h.1.symm, hread⟩

/-- **What is asked is what the service is called for.** -/
theorem Incoming.Asks.call? (h : r.Asks q) : r.call? origins = some (.of q) := by
  cases h with
  | createTeam hto hfs hteam hmembers =>
    refine SentTo.call? .addTeam hto (by simp [Route.fixed]) ((read?_body rfl).2 ?_)
    exact ⟨_, hfs, addTeamCall_eq_value.2 ⟨_, hteam, _, hmembers, rfl⟩⟩
  | showTeam hto hteam =>
    refine SentTo.call? .showTeam hto (by simp [Route.fixed]) ((read?_eq_some rfl).2 ?_)
    exact Reading.map_eq_value.2 ⟨_, Fields.read_eq_value.2 hteam, rfl⟩
  | deactivateTeam hto hfs hteam =>
    refine SentTo.call? .deactivateTeam hto (by simp [Route.fixed])
      ((read?_body rfl).2 ?_)
    exact ⟨_, hfs, deactivateTeamCall_eq_value.2 ⟨_, hteam, rfl⟩⟩
  | setUserActive hto hfs huser hactive =>
    refine SentTo.call? .setActive hto (by simp [Route.fixed]) ((read?_body rfl).2 ?_)
    exact ⟨_, hfs, setActiveCall_eq_value.2 ⟨_, huser, _, hactive, rfl⟩⟩
  | reviewsOf hto huser =>
    refine SentTo.call? .reviews hto (by simp [Route.fixed]) ((read?_eq_some rfl).2 ?_)
    exact reviewsCall_eq_value.2 ⟨_, huser, rfl⟩
  | openPull hto hfs hpull htitle hauthor =>
    refine SentTo.call? .openPull hto (by simp [Route.fixed]) ((read?_body rfl).2 ?_)
    exact ⟨_, hfs, openPullCall_eq_value.2 ⟨_, hpull, _, htitle, _, hauthor, rfl⟩⟩
  | merge hto hfs hpull =>
    refine SentTo.call? .mergePull hto (by simp [Route.fixed]) ((read?_body rfl).2 ?_)
    exact ⟨_, hfs, mergeCall_eq_value.2 ⟨_, hpull, rfl⟩⟩
  | replaceReviewer hto hfs hpull hleaving =>
    refine SentTo.call? .reassign hto (by simp [Route.fixed]) ((read?_body rfl).2 ?_)
    exact ⟨_, hfs, reassignCall_eq_value.2 ⟨_, hpull, _, hleaving, rfl⟩⟩
  | overview hto =>
    exact SentTo.call? .overview hto (by simp [Route.fixed]) ((read?_eq_some rfl).2 rfl)
  | summary hto hsince hupTo hstatus hlimit =>
    refine SentTo.call? .summary hto (by simp [Route.fixed]) ((read?_eq_some rfl).2 ?_)
    exact Reading.map_eq_value.2 ⟨_, readFields_eq_value.2 ⟨hsince, hupTo, hstatus, hlimit⟩, rfl⟩
  | reviewerReport hto hlimit =>
    refine hto.call? (Route.ofPath?_eq_reviewer.2 ⟨hto.2.2.1, hto.2.2.2, rfl⟩) rfl
      ((read?_eq_some rfl).2 ?_)
    exact Reading.map_eq_value.2 ⟨_, Fields.readOr_eq_value.2 hlimit, rfl⟩
  | pullReport hto =>
    exact hto.call? (Route.ofPath?_eq_pull.2 ⟨hto.2.2.1, hto.2.2.2, rfl⟩) rfl
      ((read?_eq_some rfl).2 rfl)

/-- At most one thing is asked. -/
theorem Incoming.Asks.unique {q' : Request Argument} (h : r.Asks q) (h' : r.Asks q') : q = q' :=
  congrArg Call.request (Option.some.inj ((h.call? : r.call? [] = _).symm.trans h'.call?))

theorem Incoming.sentTo_of_route {p : String} (hp : (p, route) ∈ Route.fixed)
    (h : Route.ofPath? r.target.path = some route) (hm : route.method = r.method) :
    r.SentTo route.method p := ⟨hm.symm, (Route.ofPath?_eq_fixed hp).1 h⟩

/-- **What the service is called for is what is asked.** -/
theorem Incoming.asks_of_call? (h : r.call? origins = some call) :
    ∃ q, r.Asks q ∧ call = .of q := by
  obtain ⟨route, hroute, hm, hread⟩ := call?_eq_some.1 h
  cases route with
  | liveness | readiness => cases hread
  | addTeam =>
    obtain ⟨fs, hfs, hread⟩ := (read?_body rfl).1 hread
    obtain ⟨team, hteam, members, hmembers, rfl⟩ := addTeamCall_eq_value.1 hread
    exact ⟨_, .createTeam (sentTo_of_route (by simp [Route.fixed]) hroute hm) hfs hteam hmembers,
      rfl⟩
  | showTeam =>
    obtain ⟨team, hteam, rfl⟩ := Reading.map_eq_value.1 ((read?_eq_some rfl).1 hread)
    exact ⟨_, .showTeam (sentTo_of_route (by simp [Route.fixed]) hroute hm)
      (Fields.read_eq_value.1 hteam), rfl⟩
  | deactivateTeam =>
    obtain ⟨fs, hfs, hread⟩ := (read?_body rfl).1 hread
    obtain ⟨team, hteam, rfl⟩ := deactivateTeamCall_eq_value.1 hread
    exact ⟨_, .deactivateTeam (sentTo_of_route (by simp [Route.fixed]) hroute hm) hfs hteam, rfl⟩
  | setActive =>
    obtain ⟨fs, hfs, hread⟩ := (read?_body rfl).1 hread
    obtain ⟨user, huser, active, hactive, rfl⟩ := setActiveCall_eq_value.1 hread
    exact ⟨_, .setUserActive (sentTo_of_route (by simp [Route.fixed]) hroute hm) hfs huser hactive,
      rfl⟩
  | reviews =>
    obtain ⟨user, huser, rfl⟩ := reviewsCall_eq_value.1 ((read?_eq_some rfl).1 hread)
    exact ⟨_, .reviewsOf (sentTo_of_route (by simp [Route.fixed]) hroute hm) huser, rfl⟩
  | openPull =>
    obtain ⟨fs, hfs, hread⟩ := (read?_body rfl).1 hread
    obtain ⟨pull, hpull, title, htitle, author, hauthor, rfl⟩ := openPullCall_eq_value.1 hread
    exact ⟨_, .openPull (sentTo_of_route (by simp [Route.fixed]) hroute hm) hfs hpull htitle
      hauthor, rfl⟩
  | mergePull =>
    obtain ⟨fs, hfs, hread⟩ := (read?_body rfl).1 hread
    obtain ⟨pull, hpull, rfl⟩ := mergeCall_eq_value.1 hread
    exact ⟨_, .merge (sentTo_of_route (by simp [Route.fixed]) hroute hm) hfs hpull, rfl⟩
  | reassign =>
    obtain ⟨fs, hfs, hread⟩ := (read?_body rfl).1 hread
    obtain ⟨pull, hpull, leaving, hleaving, rfl⟩ := reassignCall_eq_value.1 hread
    exact ⟨_, .replaceReviewer (sentTo_of_route (by simp [Route.fixed]) hroute hm) hfs hpull
      hleaving, rfl⟩
  | overview =>
    cases (read?_eq_some rfl).1 hread
    exact ⟨_, .overview (sentTo_of_route (by simp [Route.fixed]) hroute hm), rfl⟩
  | summary =>
    obtain ⟨filter, hfilter, rfl⟩ := Reading.map_eq_value.1 ((read?_eq_some rfl).1 hread)
    obtain ⟨hsince, hupTo, hstatus, hlimit⟩ := readFields_eq_value.1 hfilter
    exact ⟨_, .summary (sentTo_of_route (by simp [Route.fixed]) hroute hm) hsince hupTo hstatus
      hlimit, rfl⟩
  | reviewer user =>
    obtain ⟨limit, hlimit, rfl⟩ := Reading.map_eq_value.1 ((read?_eq_some rfl).1 hread)
    obtain ⟨hne, hslash, hpath⟩ := Route.ofPath?_eq_reviewer.1 hroute
    exact ⟨_, .reviewerReport ⟨hm.symm, hpath, hne, hslash⟩ (Fields.readOr_eq_value.1 hlimit), rfl⟩
  | pull id =>
    cases (read?_eq_some rfl).1 hread
    obtain ⟨hne, hslash, hpath⟩ := Route.ofPath?_eq_pull.1 hroute
    exact ⟨_, .pullReport ⟨hm.symm, hpath, hne, hslash⟩, rfl⟩

end Http

end ReviewRota
