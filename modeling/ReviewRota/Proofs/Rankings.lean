/-
  ReviewRota — ranked lists.

  A summary ranks reviewers and teams: the greater count stands first, and of equal counts
  the lesser name.  So the order is strict, and a limit cuts it at one place for everybody:
  whoever is left out comes behind all that are listed, and a greater limit only goes on.

  * `Outranks`: the order of a ranked list, and `pairwise_ranked`: ranked counts are in it;
  * `mem_tally` and `countIn`: what counts say of a key;
  * `Store.load`: how many reviews in a window a user has, and `Store.engaged`: who has any;
  * `Sound.mem_countsByReviewer` and `Linked.length_countsByReviewer`: the reviewers are
    listed with their loads, and nobody is missing;
  * `Settings.Engine.UsualFits`: the settings hold a usual limit that can be used, as all
    that are read do (`usualFits_of_read`);
  * `Store.Ranks` and `Session.Reachable.ranked`: what a summary lists, for every limit.
-/
import ReviewRota.Proofs.Counts
import ReviewRota.Proofs.Strain

namespace ReviewRota

/-! ## Ranks -/

/-- The first count is listed before the second: it is greater, or equal with a lesser
    name. -/
def Outranks (a b : String × Nat) : Prop := b.2 < a.2 ∨ a.2 = b.2 ∧ a.1 < b.1

instance {a b : String × Nat} : Decidable (Outranks a b) :=
  inferInstanceAs (Decidable (_ ∨ _))

theorem greaterFirst_iff {a b : String × Nat} :
    greaterFirst a b ↔ b.2 < a.2 ∨ a.2 = b.2 ∧ a.1 ≤ b.1 := by
  simp [greaterFirst]

/-- Counts of distinct names are ranked in a strict order. -/
theorem pairwise_ranked {counts : List (String × Nat)} (h : (counts.map Prod.fst).Nodup) :
    (sortBy greaterFirst counts).Pairwise Outranks := by
  let weight (c : String × Nat) : OrderDual Nat := .toDual c.2
  exact pairwise_sortBy_lex weight Prod.fst (fun _ _ => greaterFirst_iff) h

example : (sortBy greaterFirst [("cyd", 1), ("bob", 1), ("ann", 2)]).Pairwise Outranks := by
  decide +kernel

/-! ## What counts say of a key -/

section Counts

variable {α : Type} [DecidableEq α] {keys : List α} {counts : List (α × Nat)} {k : α} {n : Nat}

theorem mem_tally {c : α × Nat} : c ∈ tally keys ↔ c.1 ∈ keys ∧ c.2 = keys.count c.1 := by
  simp only [tally, List.mem_map, mem_distinct]
  constructor
  · rintro ⟨k, hk, rfl⟩
    exact ⟨hk, rfl⟩
  · rintro ⟨hk, hn⟩
    exact ⟨c.1, hk, by rw [← hn]⟩

/-- The count of a key, zero where it is missing. -/
def countIn (counts : List (α × Nat)) (key : α) : Nat := (counts.lookup key).getD 0

theorem countIn_of_mem (h : (counts.map Prod.fst).Nodup) (hc : (k, n) ∈ counts) :
    countIn counts k = n := by
  unfold countIn
  induction counts with
  | nil => cases hc
  | cons c counts ih =>
    obtain ⟨hfresh, hrest⟩ := List.nodup_cons.1 h
    rw [lookup_cons_ite]
    rcases List.mem_cons.1 hc with rfl | hc
    · rw [if_pos rfl]
      rfl
    · have hne : c.1 ≠ k := fun he => hfresh (he ▸ List.mem_map_of_mem hc)
      rw [if_neg hne]
      exact ih hrest hc

/-- In whatever order the counts of a tally stand, they say of every key how often it was
    there. -/
theorem countIn_of_perm (h : counts.Perm (tally keys)) : countIn counts k = keys.count k := by
  by_cases hk : k ∈ keys
  · have hmem : (k, keys.count k) ∈ counts := h.mem_iff.2 (mem_tally.2 ⟨hk, rfl⟩)
    exact countIn_of_mem ((h.map _).nodup_iff.2 (tallied_tally keys).once) hmem
  · have hnone : counts.lookup k = none := by
      refine lookup_eq_none fun c hc he => hk ?_
      exact he ▸ (mem_tally.1 (h.mem_iff.1 hc)).1
    rw [countIn, hnone, List.count_eq_zero_of_not_mem hk]
    rfl

/-- And there is a count for every key of which it is not zero. -/
theorem mem_iff_countIn {c : α × Nat} (h : counts.Perm (tally keys)) :
    c ∈ counts ↔ 0 < c.2 ∧ c.2 = countIn counts c.1 := by
  rw [h.mem_iff, mem_tally, countIn_of_perm h, ← List.count_pos_iff]
  exact and_congr_left fun he => by rw [he]

end Counts

/-! ## Loads -/

namespace Store

variable {s : Store} {w : Window} {r : String} {c : String × Nat}

/-- How many reviews a user has of pull requests in a window. -/
def load (s : Store) (w : Window) (user : String) : Nat :=
  (s.assignments.filter fun a =>
    a.reviewer = user ∧ a.pull ∈ (s.pullsIn w).map PullRequest.id).length

/-- The users who have a review of a pull request in a window. -/
def engaged (s : Store) (w : Window) : List String :=
  (s.users.map User.id).filter fun user => 0 < s.load w user

theorem Sound.count_reviewers (h : s.Sound) :
    ((s.assignmentsIn w).map Assignment.reviewer).count r = s.load w r := by
  rw [List.count, List.countP_map, List.countP_eq_length_filter, assignmentsIn, load,
    List.filter_filter]
  refine congrArg List.length (List.filter_congr fun a _ => ?_)
  simp [h.pull?_any, beq_eq_decide]

/-- Every reviewer is listed with the load. -/
theorem Sound.mem_countsByReviewer (h : s.Sound) :
    c ∈ s.countsByReviewer w ↔ 0 < s.load w c.1 ∧ c.2 = s.load w c.1 := by
  rw [countsByReviewer, mem_sortBy, mem_tally, h.count_reviewers, ← List.count_pos_iff,
    h.count_reviewers]

theorem Linked.mem_engaged (h : s.Linked) : r ∈ s.engaged w ↔ 0 < s.load w r := by
  rw [engaged, List.mem_filter, decide_eq_true_eq]
  refine ⟨fun hr => hr.2, fun hr => ⟨?_, hr⟩⟩
  obtain ⟨a, ha⟩ := List.exists_mem_of_length_pos hr
  obtain ⟨hmem, hof⟩ := List.mem_filter.1 ha
  obtain ⟨u, hu, he⟩ := h.manned a hmem
  exact (of_decide_eq_true hof).1 ▸ he ▸ List.mem_map_of_mem hu

/-- As many reviewers are listed as there are. -/
theorem Linked.length_countsByReviewer (h : s.Linked) (hs : s.Sound) :
    (s.countsByReviewer w).length = (s.engaged w).length := by
  rw [countsByReviewer, length_sortBy, length_tally]
  refine List.Perm.length_eq ?_
  refine (List.perm_ext_iff_of_nodup (nodup_distinct _) (hs.users.filter _)).2 fun r => ?_
  rw [mem_distinct, ← List.count_pos_iff, hs.count_reviewers, ← h.mem_engaged]
  rfl

theorem pairwise_countsByReviewer : (s.countsByReviewer w).Pairwise Outranks :=
  pairwise_ranked (tallied_tally _).once

theorem pairwise_countsByTeam : (s.countsByTeam w).Pairwise Outranks :=
  pairwise_ranked (tallied_tally _).once

end Store

/-! ## Limits -/

/-- The usual limit lists something, and the store takes it. -/
structure Settings.Engine.UsualFits (e : Settings.Engine) : Prop where
  positive : 0 < e.defaultLimit
  fits : e.defaultLimit ≤ 9223372036854775807

/-- An integer that is read between two bounds lies there. -/
theorem Reading.integerIn_bounds {least greatest n : Int} {d : Datum}
    (h : Reading.integerIn least greatest d = .value n) : least ≤ n ∧ n ≤ greatest := by
  unfold integerIn andThen at h
  split at h
  next m _ =>
    dsimp only at h
    split at h
    next => cases h
    next hg =>
      split at h
      next => cases h
      next hl =>
        obtain rfl := Reading.value.inj h
        exact ⟨Int.not_lt.1 hl, Int.not_lt.1 hg⟩
  next => cases h

/-- Settings that are read hold a usual limit from 1 to 1000. -/
theorem Settings.Engine.usualFits_of_read {d : Datum} {e : Settings.Engine}
    (h : Engine.read d = .value e) : e.UsualFits := by
  cases d with
  | table fs =>
    obtain ⟨_, hread, _, -, rfl⟩ := Reading.seq_eq_value.1 h
    obtain ⟨_, hknown, rfl⟩ := Reading.map_eq_value.1 hread
    obtain ⟨_, hrest, limit, hlimit, rfl⟩ := Reading.seq_eq_value.1 hknown
    obtain ⟨_, hfirst, _, -, rfl⟩ := Reading.seq_eq_value.1 hrest
    obtain ⟨_, -, rfl⟩ := Reading.map_eq_value.1 hfirst
    rcases Fields.readOr_eq_value.1 hlimit with ⟨d, -, hd⟩ | ⟨-, rfl⟩
    · obtain ⟨hleast, hgreatest⟩ := Reading.integerIn_bounds hd
      exact ⟨hleast, hgreatest.trans (by decide)⟩
    · exact ⟨show (0 : Int) < 10 by decide, show (10 : Int) ≤ 9223372036854775807 by decide⟩
  | _ => cases h

/-- How many entries a step that asks for so many is given at most. -/
def Step.limit (x : Step) (asked : Int) : Int := limitOr x.site.settings.engine.defaultLimit asked

theorem Step.exists_limit {x : Step} (h : x.site.settings.engine.UsualFits) (asked : Int) :
    ∃ n : Nat, x.limit asked = n := by
  have hpositive := h.positive
  refine ⟨(x.limit asked).toNat, (Int.toNat_of_nonneg ?_).symm⟩
  unfold limit limitOr
  split <;> omega

/-- The store takes the limit if it takes the number that is asked for. -/
theorem Step.limit_fits {x : Step} {asked : Int} (h : x.site.settings.engine.UsualFits)
    (hfit : asked ≤ 9223372036854775807) : x.limit asked ≤ 9223372036854775807 := by
  have hfits := h.fits
  unfold limit limitOr
  split <;> omega

/-! ## Summaries -/

/-- The summary ranks those who review a pull request in the window, as far as the limit
    goes, and their teams. -/
structure Store.Ranks (s : Store) (w : Window) (limit : Int) (v : Summary) : Prop where
  ordered : v.reviewers.Pairwise Outranks
  loads : ∀ c ∈ v.reviewers, c.2 = s.load w c.1
  length : (v.reviewers.length : Int) = min limit (s.engaged w).length
  cut : ∀ r ∈ s.engaged w, r ∉ v.reviewers.map Prod.fst →
    ∀ c ∈ v.reviewers, Outranks c (r, s.load w r)
  teams : v.teams.Pairwise Outranks

theorem Store.Linked.ranks {s : Store} {w : Window} {limit : Nat} (h : s.Linked) (hs : s.Sound) :
    s.Ranks w limit ⟨(s.countsByReviewer w).take limit, s.countsByStatus w, s.countsByTeam w⟩ where
  ordered := pairwise_countsByReviewer.sublist (List.take_sublist _ _)
  loads c hc := (hs.mem_countsByReviewer.1 (List.mem_of_mem_take hc)).2
  length := by
    rw [List.length_take, h.length_countsByReviewer hs]
    exact Nat.cast_min ..
  cut r hr hout c hc := by
    have hlisted : (r, s.load w r) ∈ s.countsByReviewer w :=
      hs.mem_countsByReviewer.2 ⟨h.mem_engaged.1 hr, rfl⟩
    have hparts := pairwise_countsByReviewer (s := s) (w := w)
    rw [← List.take_append_drop limit (s.countsByReviewer w)] at hlisted hparts
    rcases List.mem_append.1 hlisted with hin | hrest
    · exact absurd (List.mem_map_of_mem hin) hout
    · exact (List.pairwise_append.1 hparts).2.2 c hc _ hrest
  teams := pairwise_countsByTeam

namespace Session

variable {engine : Settings.Engine} {s : Session} {x : Step} {f : SummaryFilter}

/-- **Ranked lists are cut at one place.**  In every session that the desk can reach, and for
    every filter, a summary ranks the reviewers of the pull requests in the window with their
    loads, as many as the limit and the reviewers allow; whoever is left out comes behind
    those who are listed.  With a greater limit the list only goes on, and the other two lists
    do not depend on the limit.  The exception is a limit of more than 64 bits: the store does
    not take it, and there is no summary. -/
theorem Reachable.ranked (h : s.Reachable engine) (hx : x.Asks s (.summary f))
    (hspared : s.Spared x) (husual : x.site.settings.engine.UsualFits) :
    (9223372036854775807 < x.limit f.limit → (s.take x).1 = .error .overflow) ∧
    (x.limit f.limit ≤ 9223372036854775807 →
      ∃ v, (s.take x).1 = .ok (.answer (.summary v)) ∧
        s.store.Ranks f.window (x.limit f.limit) v ∧
        ∀ y g, y.Asks s (.summary g) → s.Spared y → y.site.settings.engine.UsualFits →
          g.window = f.window → y.limit g.limit ≤ 9223372036854775807 →
          ∃ v', (s.take y).1 = .ok (.answer (.summary v')) ∧
            (x.limit f.limit ≤ y.limit g.limit → v.reviewers <+: v'.reviewers) ∧
            v'.statuses = v.statuses ∧ v'.teams = v.teams) := by
  have hanswer : ∀ y g, y.Asks s (.summary g) → s.Spared y →
      ∀ n : Nat, y.limit g.limit = n → n ≤ 9223372036854775807 →
      (s.take y).1 = .ok (.answer (.summary ⟨(s.store.countsByReviewer g.window).take n,
        s.store.countsByStatus g.window, s.store.countsByTeam g.window⟩)) := by
    intro y g hy hspared n hn hfit
    obtain ⟨_, hreply, rfl⟩ := take_answered hy hspared (Desk.summary_answer hn hfit)
    exact hreply
  refine ⟨fun hover => ?_, fun hfit => ?_⟩
  · have hword : Moment.isWord (x.limit f.limit) = false := by
      simp only [Moment.isWord, Bool.and_eq_false_iff, decide_eq_false_iff_not]
      omega
    have hends : (Desk.performAny (.summary f)).Ends (s.conditions x.site.settings.engine x.cue)
        (s.scene x.cue) (fun _ _ => False) fun e t => e = .overflow ∨
          (s.conditions x.site.settings.engine x.cue).Struck e t :=
      Op.ends_map.2 (Desk.summary_overflow hword)
    obtain ⟨_, -, hfalse⟩ | ⟨_, hreply, rfl⟩ := take_of_answer hx hspared hends
    · exact hfalse.elim
    · exact hreply
  · obtain ⟨n, hn⟩ := Step.exists_limit husual f.limit
    rw [hn] at hfit ⊢
    refine ⟨_, hanswer x f hx hspared n hn (by omega), h.linked.ranks h.sound, ?_⟩
    intro y g hy hyspared hyusual hwindow hyfit
    obtain ⟨m, hm⟩ := Step.exists_limit hyusual g.limit
    rw [hm] at hyfit ⊢
    refine ⟨_, hanswer y g hy hyspared m hm (by omega), fun hle => ?_, ?_, ?_⟩
    · rw [hwindow]
      exact List.take_prefix_take_left (by omega)
    · rw [hwindow]
    · rw [hwindow]

/-- The author of a pull request opens another one. -/
def busy : List Step :=
  [{ cue := { advance := .ofNat 1 }
     action := .service (.openPull (.text "p2") (.text "Other") (.text "ann")) }]

theorem reachable_busy : (blank.along (opening ++ busy)).Reachable {} :=
  ⟨blank, rfl, opening ++ busy, by decide +kernel, rfl⟩

/-- One user reviews both pull requests, and two users review one of them each: the limit
    falls between these two. -/
theorem ranked_busy :
    let s := blank.along (opening ++ busy)
    (∃ v v', (s.take { action := .service (.summary ⟨{}, 2⟩) }).1 = .ok (.answer (.summary v)) ∧
      s.store.Ranks {} 2 v ∧ v.reviewers.length = 2 ∧ s.store.load {} "dan" = 1 ∧
      (s.take { action := .desk (.summary ⟨{}, 3⟩) }).1 = .ok (.answer (.summary v')) ∧
      v.reviewers <+: v'.reviewers ∧ v'.teams = v.teams) ∧
    (s.take { action := .service (.summary ⟨{}, 9223372036854775808⟩) }).1 =
      .error .overflow := by
  have husual : ({} : Settings.Engine).UsualFits := ⟨by decide, by decide⟩
  have hengaged : ((blank.along (opening ++ busy)).store.engaged {}).length = 3 := by
    decide +kernel
  have hload : (blank.along (opening ++ busy)).store.load {} "dan" = 1 := by decide +kernel
  have htime : Service.hasTime {} = true := by decide +kernel
  have hasks : ∀ f, Step.Asks (blank.along (opening ++ busy)) { action := .service (.summary f) }
      (.summary f) :=
    fun f => .service rfl (fun _ ha => nomatch ha) htime
  obtain ⟨v, hreply, hranks, hmore⟩ :=
    (reachable_busy.ranked (hasks ⟨{}, 2⟩) (spared_of_fault rfl) husual).2 (by decide)
  obtain ⟨v', hreply', hprefix, -, hteams⟩ := hmore
    { action := .desk (.summary ⟨{}, 3⟩) } ⟨{}, 3⟩ (.desk rfl) (spared_of_fault rfl) husual rfl
    (by decide)
  have hlength := hranks.length
  rw [hengaged] at hlength
  refine ⟨⟨v, v', hreply, hranks, Int.ofNat.inj hlength, hload, hreply', hprefix (by decide),
    hteams⟩, ?_⟩
  exact (reachable_busy.ranked (hasks ⟨{}, 9223372036854775808⟩) (spared_of_fault rfl) husual).1
    (by decide)

end Session

end ReviewRota
