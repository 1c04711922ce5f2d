/-
  ReviewRota — what is picked.

  Whatever the draws are, distinct members of the pool are picked, as many as
  asked for as long as the pool has them, and only a draw that fails makes a pick
  fail.

  * `Draw.NeverFail`: all draws are numbers;
  * `Drawing.Ends`: what holds of both ends of a computation that takes draws;
  * `sample_spec` and `choice_spec`: what a sample and a choice yield;
  * `Op.Ends.drawing`: picks made by an operation.
-/
import ReviewRota.Proofs.Outcome

namespace ReviewRota

variable {α β : Type} {g : Generator} {k : Nat} {pool : List String}

/-- No draw is a failure. -/
def Draw.NeverFail (draws : List Draw) : Prop := ∀ d ∈ draws, ∃ n, d = .index n

theorem Draw.NeverFail.suffix {ds es : List Draw} (h : NeverFail es) (hs : ds <:+ es) :
    NeverFail ds := fun d hd => h d (hs.mem hd)

namespace Drawing

/-- What holds of the two ends of a computation that takes draws. -/
def Ends (work : Drawing α) (g : Generator) (done : α → Generator → Prop)
    (lost : Failure → Generator → Prop) : Prop :=
  match work.run.run g with
  | (.ok a, t) => done a t
  | (.error e, t) => lost e t

variable {x : Drawing α} {f : α → Drawing β} {done : α → Generator → Prop}
  {lost : Failure → Generator → Prop}

theorem Ends.mono {done' : α → Generator → Prop} {lost' : Failure → Generator → Prop}
    (h : x.Ends g done lost) (hd : ∀ a t, done a t → done' a t)
    (hl : ∀ e t, lost e t → lost' e t) : x.Ends g done' lost' := by
  unfold Ends at h ⊢
  split at h
  next a t _ => exact hd a t h
  next e t _ => exact hl e t h

theorem ends_bind {done : β → Generator → Prop} : (x >>= f).Ends g done lost ↔
    x.Ends g (fun a t => (f a).Ends t done lost) lost := by
  simp only [Ends, ExceptT.run_bind, StateT.run_bind]
  rcases x.run.run g with ⟨r, t⟩
  cases r <;> rfl

theorem ends_pure {a : α} : (pure a : Drawing α).Ends g done lost ↔ done a g := Iff.rfl

theorem ends_tryCatch {h : Failure → Drawing α} : (tryCatch x h).Ends g done lost ↔
    x.Ends g done fun e t => (h e).Ends t done lost := by
  simp only [Ends, tryCatch, tryCatchThe, MonadExceptOf.tryCatch, ExceptT.run, ExceptT.tryCatch,
    ExceptT.mk, StateT.run_bind]
  rcases StateT.run x g with ⟨r, t⟩
  cases r <;> rfl

/-- The next draw is taken; only a failed one has no number. -/
theorem next_spec : next.Ends g (fun _ t => t.draws <:+ g.draws)
    fun _ _ => ¬ Draw.NeverFail g.draws := by
  rcases g with ⟨_ | ⟨d | e, draws⟩, taken⟩
  · exact List.suffix_rfl
  · exact List.suffix_cons _ _
  · intro h
    obtain ⟨n, hn⟩ := h _ List.mem_cons_self
    cases hn

/-- As many distinct members as asked for are picked from a pool that has them. -/
theorem pick_spec (h : k ≤ pool.length) : (pick k pool).Ends g
    (fun picked t => picked.length = k ∧ picked.Subperm pool ∧ t.draws <:+ g.draws)
    fun _ _ => ¬ Draw.NeverFail g.draws := by
  induction k generalizing pool g with
  | zero => exact ⟨rfl, List.nil_subperm, List.suffix_rfl⟩
  | succ k ih =>
    refine ends_bind.2 (next_spec.mono (fun n t ht => ?_) fun _ _ h => h)
    have hpos : 0 < (pool.length : Int) := by omega
    have hi : (n % pool.length).toNat < pool.length := by
      have := Int.emod_lt_of_pos n hpos
      have := Int.emod_nonneg n hpos.ne'
      omega
    refine ends_bind.2 ((ih ?_).mono (fun picked u hu => ?_) fun _ _ h h' => h (h'.suffix ht))
    · rw [List.length_eraseIdx_of_lt hi]; omega
    · obtain ⟨hlen, hsub, hsuf⟩ := hu
      refine ⟨?_, ?_, hsuf.trans ht⟩ <;>
        simp only [List.getElem?_eq_getElem hi, Option.toList_some, List.singleton_append]
      · rw [List.length_cons, hlen]
      · exact ((List.subperm_cons _).2 hsub).trans (List.getElem_cons_eraseIdx_perm hi).subperm

/-- A sample holds distinct members of the pool, as many as asked for or all. -/
theorem sample_spec {k : Int} : (sample pool k).Ends g
    (fun picked t => picked.length = (min k pool.length).toNat ∧ picked.Subperm pool ∧
      t.draws <:+ g.draws)
    fun _ _ => ¬ Draw.NeverFail g.draws :=
  ends_tryCatch.2 ((pick_spec (by omega)).mono (fun _ _ h => h) fun _ _ h => h)

/-- A choice is a member of the pool, and there is none only in an empty pool. -/
theorem choice_spec : (choice pool).Ends g
    (fun picked t => (match picked with | some r => r ∈ pool | none => pool = []) ∧
      t.draws <:+ g.draws)
    fun _ _ => ¬ Draw.NeverFail g.draws := by
  refine ends_bind.2 (sample_spec.mono (fun picked t h => ends_pure.2 ⟨?_, h.2.2⟩) fun _ _ h => h)
  obtain ⟨hlen, hsub, -⟩ := h
  cases picked with
  | nil => rw [List.head?_nil]; exact List.length_eq_zero_iff.1 (by simp at hlen; omega)
  | cons r picked => exact hsub.subset List.mem_cons_self

end Drawing

/-- Picks change the draws to come and nothing else. -/
theorem Op.outcome_drawing {c : Conditions} {s : Scene} {work : Drawing α} :
    (Op.drawing work).outcome c s = ((work.run.run s.generator).1,
      { s with generator := (work.run.run s.generator).2 }) := by
  change (set { s with generator := (work.run.run s.generator).2 } >>= fun _ =>
    MonadExcept.ofExcept (work.run.run s.generator).1 : Op α).outcome c s = _
  rcases work.run.run s.generator with ⟨_ | _, _⟩ <;> rfl

theorem Op.Ends.drawing {c : Conditions} {s : Scene} {work : Drawing α} {done : α → Scene → Prop}
    {lost : Failure → Scene → Prop}
    (h : work.Ends s.generator (fun a generator => done a { s with generator })
      fun e generator => lost e { s with generator }) : (Op.drawing work).Ends c s done lost := by
  unfold Drawing.Ends at h
  unfold Op.Ends
  rw [Op.outcome_drawing]
  rcases hr : work.run.run s.generator with ⟨r, g⟩
  rw [hr] at h
  cases r with
  | ok a => exact h
  | error e => exact h

end ReviewRota
