/-
  ReviewRota — sorted lists.

  A list is sorted by a test that says whether one entry may stand before
  another.  Entries that may stand in either order keep the order they had.

  * `insertBy` puts an entry into a sorted list, `sortBy` sorts a list;
  * `sortBy_perm`: sorting only reorders; `pairwise_sortBy`: the result is in
    order, for a test that is total and transitive;
  * `sortBy_eq_self`: a list in order stays as it is; `sortBy_congr`: for a test
    that never holds both ways of two entries, the result depends on the entries
    alone.
-/

namespace ReviewRota

variable {before : α → α → Bool} {a : α} {l m : List α}

/-- The entry in front of the first one that it may stand before. -/
def insertBy (before : α → α → Bool) (a : α) : List α → List α
  | [] => [a]
  | b :: l => if before a b then a :: b :: l else b :: insertBy before a l

/-- The entries in order. -/
def sortBy (before : α → α → Bool) : List α → List α
  | [] => []
  | a :: l => insertBy before a (sortBy before l)

theorem insertBy_perm (before : α → α → Bool) (a : α) (l : List α) :
    (insertBy before a l).Perm (a :: l) := by
  induction l with
  | nil => exact .refl _
  | cons b l ih =>
    rw [insertBy]
    split
    · exact .refl _
    · exact (ih.cons b).trans (.swap a b l)

theorem sortBy_perm (before : α → α → Bool) (l : List α) : (sortBy before l).Perm l := by
  induction l with
  | nil => exact .refl _
  | cons a l ih => exact (insertBy_perm before a _).trans (ih.cons a)

@[simp] theorem mem_sortBy : a ∈ sortBy before l ↔ a ∈ l := (sortBy_perm before l).mem_iff

@[simp] theorem length_sortBy : (sortBy before l).length = l.length :=
  (sortBy_perm before l).length_eq

theorem pairwise_insertBy (total : ∀ a b, before a b || before b a)
    (trans : ∀ a b c, before a b → before b c → before a c)
    (h : l.Pairwise (before · ·)) : (insertBy before a l).Pairwise (before · ·) := by
  induction l with
  | nil => simp [insertBy]
  | cons b l ih =>
    obtain ⟨hb, hl⟩ := List.pairwise_cons.1 h
    rw [insertBy]
    split
    next hab =>
      refine List.pairwise_cons.2 ⟨fun c hc => ?_, h⟩
      rcases List.mem_cons.1 hc with rfl | hc
      · exact hab
      · exact trans a b c hab (hb c hc)
    next hab =>
      refine List.pairwise_cons.2 ⟨fun c hc => ?_, ih hl⟩
      rcases List.mem_cons.1 ((insertBy_perm before a l).mem_iff.1 hc) with rfl | hc
      · simpa [hab] using total c b
      · exact hb c hc

theorem pairwise_sortBy (total : ∀ a b, before a b || before b a)
    (trans : ∀ a b c, before a b → before b c → before a c) (l : List α) :
    (sortBy before l).Pairwise (before · ·) := by
  induction l with
  | nil => exact .nil
  | cons a l ih => exact pairwise_insertBy total trans ih

theorem sortBy_eq_self (h : l.Pairwise (before · ·)) : sortBy before l = l := by
  induction l with
  | nil => rfl
  | cons a l ih =>
    obtain ⟨ha, hl⟩ := List.pairwise_cons.1 h
    rw [sortBy, ih hl]
    cases l with
    | nil => rfl
    | cons b l => rw [insertBy, if_pos (ha b List.mem_cons_self)]

theorem sortBy_congr (total : ∀ a b, before a b || before b a)
    (trans : ∀ a b c, before a b → before b c → before a c)
    (antisymm : ∀ a b, before a b → before b a → a = b) (h : l.Perm m) :
    sortBy before l = sortBy before m :=
  (((sortBy_perm before l).trans h).trans (sortBy_perm before m).symm).eq_of_pairwise
    (fun a b _ _ => antisymm a b) (pairwise_sortBy total trans l) (pairwise_sortBy total trans m)

end ReviewRota
