/-
  ReviewRota — what draws deal.

  A pick is decided by its draws, and it takes as many as it picks.  Draws that stay
  below the size of what is left of the pool each time are as good as the pick itself:
  every ordered choice of distinct members comes from exactly one list of them.

  * `Generator.skip`: the generator after some more draws;
  * `pick_skip`, `sample_skip` and `choice_skip`: how many draws are taken;
  * `Drawing.dealt`: the members that a list of draws picks, and `pick_dealt`,
    `sample_dealt` and `choice_dealt`: they are what is picked;
  * `Drawing.Deals` and `Drawing.Choices`: the lists of such draws, and the ordered
    choices of distinct members; `dealt_bijOn`: each comes from one of the other;
  * `Store.available`: who may be picked of a team;
  * `Op.Refuses` and `Session.Refuses`: an operation or a step is refused and has done
    nothing;
  * `Session.Calm`: nothing goes wrong in a step; `Session.Draws`: it takes just so many
    draws; `Step.drawing`: the same step with other draws.
-/
import ReviewRota.Proofs.Answers

namespace ReviewRota

/-- The generator after some more draws. -/
def Generator.skip (g : Generator) (k : Nat) : Generator := ⟨g.draws.drop k, g.taken + k⟩

@[simp] theorem Generator.skip_skip (g : Generator) (j k : Nat) :
    (g.skip j).skip k = g.skip (j + k) := by
  simp only [skip, List.drop_drop, Nat.add_assoc]

/-- The draws that are these numbers. -/
def Draw.indices (ds : List Nat) : List Draw := ds.map fun d => .index d

theorem Draw.neverFail_indices {ds : List Nat} {rest : List Draw} (h : NeverFail rest) :
    NeverFail (indices ds ++ rest) := by
  intro d hd
  rcases List.mem_append.1 hd with hd | hd
  · obtain ⟨n, -, rfl⟩ := List.mem_map.1 hd
    exact ⟨n, rfl⟩
  · exact h d hd

namespace Drawing

variable {α : Type} {g : Generator} {pool : List String} {k n d : Nat} {r : String}
  {ds : List Nat} {rs : List String} {rest : List Draw}

theorem Ends.and {x : Drawing α} {done done' : α → Generator → Prop}
    {lost lost' : Failure → Generator → Prop} (h : x.Ends g done lost) (h' : x.Ends g done' lost') :
    x.Ends g (fun a t => done a t ∧ done' a t) fun e t => lost e t ∧ lost' e t := by
  unfold Ends at h h' ⊢
  rcases hr : x.run.run g with ⟨r, t⟩
  rw [hr] at h h'
  cases r with
  | ok a => exact ⟨h, h'⟩
  | error e => exact ⟨h, h'⟩

/-! ## How many draws are taken -/

theorem next_skip : next.Ends g (fun _ t => t = g.skip 1) fun _ _ => True := by
  rcases g with ⟨_ | ⟨_ | _, _⟩, _⟩
  · rfl
  · rfl
  · trivial

theorem pick_skip : (pick k pool).Ends g (fun _ t => t = g.skip k) fun _ _ => True := by
  induction k generalizing pool g with
  | zero => rfl
  | succ k ih =>
    refine ends_bind.2 (next_skip.mono (fun n t ht => ?_) fun _ _ h => h)
    refine ends_bind.2 (ih.mono (fun _ u hu => ends_pure.2 ?_) fun _ _ h => h)
    rw [hu, ht, Generator.skip_skip, Nat.add_comm]

/-- A sample takes as many draws as it has members. -/
theorem sample_skip {m : Int} :
    (sample pool m).Ends g (fun picked t => t = g.skip picked.length) fun _ _ => True := by
  refine ends_tryCatch.2 (((pick_spec (by omega)).and pick_skip).mono (fun _ _ h => ?_) ?_)
  · rw [h.1.1]
    exact h.2
  · exact fun _ _ _ => trivial

/-- A choice takes one draw, or none where there is nobody to choose. -/
theorem choice_skip :
    (choice pool).Ends g (fun picked t => t = g.skip picked.toList.length) fun _ _ => True := by
  refine ends_bind.2 ((sample_spec.and sample_skip).mono (fun picked t h => ends_pure.2 ?_)
    fun _ _ _ => trivial)
  obtain ⟨⟨hlen, -, -⟩, ht⟩ := h
  match picked, hlen with
  | [], _ => exact ht
  | [r], _ => exact ht
  | _ :: _ :: _, hlen => simp only [List.length_cons] at hlen; omega

/-! ## Which members are picked -/

/-- The members that draws pick from a pool, each from what the ones before have left. -/
def dealt : List String → List Nat → List String
  | _, [] => []
  | pool, d :: ds => (pool[d]?).toList ++ dealt (pool.eraseIdx d) ds

/-- The lists of `k` draws of which each stays below the size of what is left of `n`. -/
def Deals (k n : Nat) : Set (List Nat) :=
  {ds | ds.length = k ∧ ∀ (i : Nat) (h : i < ds.length), ds[i] < n - i}

/-- The ordered choices of `k` distinct members. -/
def Choices (k : Nat) (members : Finset String) : Set (List String) :=
  {rs | rs.length = k ∧ rs.Nodup ∧ ∀ r ∈ rs, r ∈ members}

theorem nil_mem_deals : [] ∈ Deals 0 n := ⟨rfl, nofun⟩

theorem cons_mem_deals : d :: ds ∈ Deals (k + 1) n ↔ d < n ∧ ds ∈ Deals k (n - 1) := by
  constructor
  · rintro ⟨hlen, h⟩
    refine ⟨h 0 (by simp), by simpa using hlen, fun i hi => ?_⟩
    have hd := h (i + 1) (by simpa using hi)
    simp only [List.getElem_cons_succ] at hd
    omega
  · rintro ⟨hd, hlen, h⟩
    refine ⟨by simp [hlen], fun i hi => ?_⟩
    cases i with
    | zero => exact hd
    | succ i =>
      have hds := h i (by simpa using hi)
      simp only [List.getElem_cons_succ]
      omega

theorem cons_mem_choices {members : Finset String} :
    r :: rs ∈ Choices (k + 1) members ↔ r ∈ members ∧ rs ∈ Choices k (members.erase r) := by
  simp only [Choices, Set.mem_ofPred_eq, List.length_cons, Nat.add_right_cancel_iff,
    List.nodup_cons, List.forall_mem_cons, Finset.mem_erase]
  constructor
  · rintro ⟨hlen, ⟨hr, hrs⟩, hmem, h⟩
    exact ⟨hmem, hlen, hrs, fun q hq => ⟨fun he => hr (he ▸ hq), h q hq⟩⟩
  · rintro ⟨hmem, hlen, hrs, h⟩
    exact ⟨hlen, ⟨fun hr => (h r hr).1 rfl, hrs⟩, hmem, fun q hq => (h q hq).2⟩

theorem dealt_cons (h : d < pool.length) :
    dealt pool (d :: ds) = pool[d] :: dealt (pool.eraseIdx d) ds := by
  rw [dealt, List.getElem?_eq_getElem h]
  rfl

/-- Who is left of the pool when one of its members is out. -/
theorem toFinset_eraseIdx (hp : pool.Nodup) (h : d < pool.length) :
    (pool.eraseIdx d).toFinset = pool.toFinset.erase pool[d] := by
  have hperm : (pool[d] :: pool.eraseIdx d).Perm pool := List.getElem_cons_eraseIdx_perm h
  have hout : pool[d] ∉ pool.eraseIdx d := (List.nodup_cons.1 (hperm.nodup_iff.2 hp)).1
  rw [← List.toFinset_eq_of_perm _ _ hperm, List.toFinset_cons,
    Finset.erase_insert (by simpa using hout)]

/-- **Draws and ordered choices correspond one to one.** -/
theorem dealt_bijOn (hp : pool.Nodup) :
    Set.BijOn (dealt pool) (Deals k pool.length) (Choices k pool.toFinset) := by
  induction k generalizing pool with
  | zero =>
    refine ⟨fun ds hds => ?_, fun ds hds es hes _ => ?_, fun rs hrs => ?_⟩
    · rw [List.length_eq_zero_iff.1 hds.1]
      exact ⟨rfl, .nil, nofun⟩
    · rw [List.length_eq_zero_iff.1 hds.1, List.length_eq_zero_iff.1 hes.1]
    · rw [List.length_eq_zero_iff.1 hrs.1]
      exact ⟨[], nil_mem_deals, rfl⟩
  | succ k ih =>
    -- after one draw, the others pick from a pool with a member less
    have hrest (d : Nat) (h : d < pool.length) : Set.BijOn (dealt (pool.eraseIdx d))
        (Deals k (pool.length - 1)) (Choices k (pool.toFinset.erase pool[d])) := by
      rw [← toFinset_eraseIdx hp h, ← List.length_eraseIdx_of_lt h]
      exact ih (hp.eraseIdx d)
    refine ⟨fun ds hds => ?_, fun ds hds es hes he => ?_, fun rs hrs => ?_⟩
    · cases ds with
      | nil => cases hds.1
      | cons d ds =>
        obtain ⟨hd, hds⟩ := cons_mem_deals.1 hds
        rw [dealt_cons hd, cons_mem_choices]
        exact ⟨by simp, (hrest d hd).mapsTo hds⟩
    · cases ds with
      | nil => cases hds.1
      | cons d ds =>
      cases es with
      | nil => cases hes.1
      | cons e es =>
        obtain ⟨hd, hds'⟩ := cons_mem_deals.1 hds
        obtain ⟨hlt, hes'⟩ := cons_mem_deals.1 hes
        rw [dealt_cons hd, dealt_cons hlt] at he
        obtain ⟨hhead, htail⟩ := List.cons.inj he
        obtain rfl : d = e := hp.getElem_inj_iff.1 hhead
        rw [(hrest d hd).injOn hds' hes' htail]
    · cases rs with
      | nil => cases hrs.1
      | cons r rs =>
        obtain ⟨hr, hrs⟩ := cons_mem_choices.1 hrs
        obtain ⟨d, hd, rfl⟩ := List.getElem_of_mem (List.mem_toFinset.1 hr)
        obtain ⟨ds, hds, rfl⟩ := (hrest d hd).surjOn hrs
        exact ⟨d :: ds, cons_mem_deals.2 ⟨hd, hds⟩, dealt_cons hd⟩

/-- Whatever the draws are, a sample is an ordered choice. -/
theorem sample_choices {m : Int} (hp : pool.Nodup) : (sample pool m).Ends g
    (fun picked _ => picked ∈ Choices (min m pool.length).toNat pool.toFinset)
    fun _ _ => ¬ Draw.NeverFail g.draws := by
  refine sample_spec.mono (fun picked _ h => ?_) fun _ _ h => h
  obtain ⟨hlen, ⟨l, hl, hsub⟩, -⟩ := h
  refine ⟨hlen, hl.nodup_iff.1 (hp.sublist hsub), fun r hr => List.mem_toFinset.2 ?_⟩
  exact hsub.subset (hl.mem_iff.2 hr)

/-- A draw that is a number yields it. -/
theorem next_index {m : Int} {t : Nat} : next.Ends ⟨.index m :: rest, t⟩
    (fun n u => n = m ∧ u = ⟨rest, t + 1⟩) fun _ _ => False := ⟨rfl, rfl⟩

/-- Draws below the sizes of what is left pick what they deal. -/
theorem pick_dealt {t : Nat} (h : ds ∈ Deals k pool.length) :
    (pick k pool).Ends ⟨Draw.indices ds ++ rest, t⟩ (fun picked _ => picked = dealt pool ds)
      fun _ _ => False := by
  induction k generalizing pool ds t with
  | zero =>
    rw [List.length_eq_zero_iff.1 h.1]
    rfl
  | succ k ih =>
    cases ds with
    | nil => cases h.1
    | cons d ds =>
      obtain ⟨hd, hds⟩ := cons_mem_deals.1 h
      have hi : ((d : Int) % (pool.length : Int)).toNat = d := by
        rw [Int.emod_eq_of_lt (by omega) (by omega), Int.toNat_natCast]
      rw [← List.length_eraseIdx_of_lt hd] at hds
      refine ends_bind.2 (next_index.mono (fun n u hu => ?_) fun _ _ h => h)
      obtain ⟨rfl, rfl⟩ := hu
      dsimp only
      rw [hi]
      refine ends_bind.2 ((ih hds).mono (fun picked _ hp => ?_) fun _ _ h => h)
      rw [hp]
      exact ends_pure.2 rfl

theorem sample_dealt {m : Int} {t : Nat}
    (h : ds ∈ Deals (min m pool.length).toNat pool.length) :
    (sample pool m).Ends ⟨Draw.indices ds ++ rest, t⟩ (fun picked _ => picked = dealt pool ds)
      fun _ _ => False :=
  ends_tryCatch.2 ((pick_dealt h).mono (fun _ _ h => h) fun _ _ => False.elim)

/-- A draw below the size of the pool chooses the member at its place. -/
theorem choice_dealt {t : Nat} (h : d < pool.length) :
    (choice pool).Ends ⟨.index d :: rest, t⟩ (fun picked _ => picked = some pool[d])
      fun _ _ => False := by
  have hone : [d] ∈ Deals (min 1 (pool.length : Int)).toNat pool.length := by
    rw [show (min 1 (pool.length : Int)).toNat = 0 + 1 by omega]
    exact cons_mem_deals.2 ⟨h, nil_mem_deals⟩
  have hsample : (sample pool 1).Ends ⟨.index d :: rest, t⟩ (fun picked _ => picked = dealt pool [d])
      fun _ _ => False := sample_dealt hone
  refine ends_bind.2 (hsample.mono (fun picked _ hp => ?_) fun _ _ h => h)
  rw [hp, dealt_cons h]
  rfl

end Drawing

/-! ## Who may be picked -/

namespace Store

variable {s : Store} {team r : String} {out : List String}

/-- The active members of a team, without some users. -/
def available (s : Store) (team : String) (out : List String) : Finset String :=
  ((s.users.filter fun u => u.active ∧ u.team = team ∧ u.id ∉ out).map User.id).toFinset

theorem toFinset_candidates :
    (s.candidates { within := team, exclude := out }).toFinset = s.available team out := by
  ext r
  simp only [available, List.mem_toFinset, mem_candidates, List.mem_map, List.mem_filter,
    Pool.admits_iff, decide_eq_true_eq]
  constructor
  · rintro ⟨u, hu, ⟨ha, ht, -, hout⟩, rfl⟩
    exact ⟨u, ⟨hu, ha, ht _ rfl, hout⟩, rfl⟩
  · rintro ⟨u, ⟨hu, ha, ht, hout⟩, rfl⟩
    exact ⟨u, hu, ⟨ha, fun _ h => Option.some.inj h ▸ ht, nofun, hout⟩, rfl⟩

theorem Sound.length_candidates (h : s.Sound) :
    (s.candidates { within := team, exclude := out }).length = (s.available team out).card := by
  rw [← toFinset_candidates, List.toFinset_card_of_nodup (h.nodup_candidates _)]

end Store

/-! ## Refusals -/

/-- The operation is refused, and has done nothing to the store and to the draws. -/
def Op.Refuses {α : Type} (op : Op α) (c : Conditions) (s : Scene) (r : Refusal) : Prop :=
  op.Ends c s (fun _ _ => False) fun e t =>
    e = .refused r ∧ t.store = s.store ∧ t.generator = s.generator

theorem Op.Refuses.bind {α β : Type} {op : Op α} {c : Conditions} {s : Scene} {r : Refusal}
    {f : α → Op β} (h : op.Refuses c s r) : (op >>= f).Refuses c s r :=
  Ends.bind (h.mono (fun _ _ => False.elim) fun _ _ h => h)

theorem Op.Refuses.map {α β : Type} {op : Op α} {c : Conditions} {s : Scene} {r : Refusal}
    {g : α → β} (h : op.Refuses c s r) : (g <$> op).Refuses c s r := ends_map.2 h

/-! ## Steps that draw -/

/-- The step with these draws to come. -/
def Step.drawing (x : Step) (draws : List Draw) : Step :=
  { x with cue := { x.cue with draws := some draws } }

theorem Step.Asks.drawing {s : Session} {x : Step} {r : Request Argument} {draws : List Draw}
    (h : x.Asks s r) : (x.drawing draws).Asks s r := by
  cases h with
  | desk h => exact .desk h
  | service h hr ht => exact .service h hr ht

namespace Session

variable {s : Session} {x : Step} {k : Nat} {e : Refusal}

/-- No call goes wrong in the step, and none of its draws fails. -/
structure Calm (s : Session) (x : Step) : Prop where
  fault : x.cue.fault = none
  draws : Draw.NeverFail (s.arranged x.cue).draws

/-- The step takes just so many draws. -/
structure Draws (s : Session) (x : Step) (k : Nat) : Prop where
  taken : (s.take x).2.1.generator.taken = k
  left : (s.next x).draws = (s.arranged x.cue).draws.drop k

/-- The step is refused, takes no draw and leaves the store as it was. -/
structure Refuses (s : Session) (x : Step) (e : Refusal) : Prop where
  reply : (s.take x).1 = .error (.refused e)
  store : (s.next x).store = s.store
  draws : s.Draws x 0

theorem calm_of_cue (hx : x.cue = {}) (hd : s.draws = []) : s.Calm x := by
  refine ⟨by rw [hx], ?_⟩
  show Draw.NeverFail (x.cue.draws.getD s.draws)
  rw [hx, hd]
  exact nofun

theorem Calm.drawing {draws : List Draw} (h : s.Calm x) (hd : Draw.NeverFail draws) :
    s.Calm (x.drawing draws) := ⟨h.fault, hd⟩

theorem Calm.conditions (h : s.Calm x) :
    (s.conditions x.site.settings.engine x.cue).Calm (s.scene x.cue) := ⟨h.fault, h.draws⟩

theorem draws_of_skip (h : (s.take x).2.1.generator = (s.scene x.cue).generator.skip k) :
    s.Draws x k := by
  constructor
  · rw [h]
    exact Nat.zero_add k
  · exact congrArg Generator.draws h

/-- What the desk refuses before it has done anything is refused by the step. -/
theorem refuses_of_desk {r : Request Argument} (hx : x.Asks s r)
    (h : (Desk.performAny r).Refuses (s.conditions x.site.settings.engine x.cue) (s.scene x.cue) e) :
    s.Refuses x e := by
  rcases take_of_desk hx (fun _ _ _ h => h) h with ⟨_, -, h⟩ | ⟨_, hr, rfl, hstore, hgenerator⟩
  · exact h.elim
  · exact ⟨hr, hstore, draws_of_skip hgenerator⟩

end Session

end ReviewRota
