/-
  ReviewRota — tables.

  A table names each of its entries once.  Entries are put into tables one by one, and
  one table is laid over another; here is what a search by name finds afterwards.  A
  search may look for more than one name, such as all that differ in case from a given
  one; it then finds the first.

  * `Fields.find?_put` and `Fields.find?_overWithin`: what a search finds once an entry
    is put into a table, or a table is laid over another;
  * `Fields.ofNames`: the table that has an entry for each of some names;
  * `Fields.get?_over`: what is found under a name in a table laid over another.
-/
import ReviewRota.Datum
import ReviewRota.Proofs.Rows

namespace ReviewRota

/-! ## Searches -/

section Lookup

variable {κ β : Type} [DecidableEq κ] {f : κ × β} {fs : List (κ × β)} {n : κ} {b : β}

theorem lookup_cons_ite : (f :: fs).lookup n = if f.1 = n then some f.2 else fs.lookup n := by
  rw [List.lookup_cons, Bool.beq_comm]
  by_cases h : f.1 = n
  · rw [if_pos h, beq_iff_eq.2 h]
  · rw [if_neg h, beq_false_of_ne h]

theorem mem_of_lookup (h : fs.lookup n = some b) : (n, b) ∈ fs := by
  obtain ⟨before, after, rfl, -⟩ := List.lookup_eq_some_iff.1 h
  exact List.mem_append_right _ (List.mem_cons_self ..)

theorem lookup_eq_none (h : ∀ f ∈ fs, f.1 ≠ n) : fs.lookup n = none := by
  cases hb : fs.lookup n with
  | none => rfl
  | some b => exact absurd rfl (h _ (mem_of_lookup hb))

end Lookup

namespace Fields

variable {fs upper lower : Fields} {k n : String} {d old : Datum} {p : String → Bool}
  {f : String × Datum}

@[simp] theorem get?_nil : get? [] n = none := rfl

theorem get?_cons : get? (f :: fs) n = if f.1 = n then some f.2 else get? fs n := lookup_cons_ite

theorem get?_eq_find? : fs.get? n = (fs.find? fun f => f.1 == n).map Prod.snd := by
  induction fs with
  | nil => rfl
  | cons f fs ih =>
    rw [get?_cons, List.find?_cons, ih]
    by_cases h : f.1 = n
    · rw [if_pos h, beq_iff_eq.2 h]
      rfl
    · rw [if_neg h, beq_false_of_ne h]

theorem get?_eq_none_iff : fs.get? n = none ↔ ∀ f ∈ fs, f.1 ≠ n := by
  simp [get?_eq_find?]

theorem mem_of_get? (h : fs.get? n = some d) : (n, d) ∈ fs := mem_of_lookup h

/-- The first entry of those searched for is also the first of its own name. -/
theorem get?_of_find? (h : (fs.find? fun f => p f.1) = some f) : fs.get? f.1 = some f.2 := by
  rw [List.find?_eq_some_iff_append] at h
  obtain ⟨hp, before, after, rfl, hbefore⟩ := h
  have hnone : before.find? (fun g => g.1 == f.1) = none := by
    rw [List.find?_eq_none]
    intro g hg he
    have hne := hbefore g hg
    rw [eq_of_beq he, hp] at hne
    cases hne
  rw [get?_eq_find?, List.find?_append, hnone, Option.none_or, List.find?_cons, beq_self_eq_true]
  rfl

theorem any_iff_get? : (fs.any fun f => f.1 == k) = (fs.get? k).isSome := by
  rw [Bool.eq_iff_iff, get?_eq_find?]
  simp

/-! ## An entry put into a table -/

theorem put_of_none (h : fs.get? k = none) : fs.put k d = fs ++ [(k, d)] := by
  unfold put
  rw [any_iff_get?, h]
  rfl

theorem put_of_some (h : fs.get? k = some old) :
    fs.put k d = fs.map fun f => if f.1 == k then (k, d) else f := by
  unfold put
  rw [any_iff_get?, h]
  rfl

/-- An entry put into a table stands in place of the one of its name, or at the end. -/
theorem find?_put : ((fs.put k d).find? fun f => p f.1) =
    match fs.find? fun f => p f.1 with
    | some f => some (if f.1 == k then (k, d) else f)
    | none => if p k then some (k, d) else none := by
  cases hk : fs.get? k with
  | none =>
    rw [put_of_none hk, List.find?_append]
    cases hf : fs.find? fun f => p f.1 with
    | none => cases hp : p k <;> simp [hp]
    | some f =>
      have hne : f.1 ≠ k := get?_eq_none_iff.1 hk f (List.mem_of_find?_eq_some hf)
      simp [hne]
  | some old =>
    have hsame : ((fun f : String × Datum => p f.1) ∘ fun f => if f.1 == k then (k, d) else f) =
        fun f => p f.1 := by
      funext f
      by_cases h : f.1 = k <;> simp [h]
    rw [put_of_some hk, List.find?_map, hsame]
    cases hf : fs.find? fun f => p f.1 with
    | none =>
      have hp : ¬ p k := List.find?_eq_none.1 hf (k, old) (mem_of_get? hk)
      simp [hp]
    | some f => rfl

theorem get?_put : (fs.put k d).get? n = if k = n then some d else fs.get? n := by
  rw [get?_eq_find?, find?_put (p := fun m => m == n), get?_eq_find?]
  cases hf : fs.find? fun f => f.1 == n with
  | none => by_cases h : k = n <;> simp [h]
  | some f =>
    obtain rfl : f.1 = n := by simpa using List.find?_some hf
    by_cases h : k = f.1
    · simp [h]
    · simp [h, Ne.symm h]

theorem names_put : (fs.put k d).map Prod.fst =
    if (fs.get? k).isSome then fs.map Prod.fst else fs.map Prod.fst ++ [k] := by
  cases hk : fs.get? k with
  | none => simp [put_of_none hk]
  | some old =>
    rw [put_of_some hk, List.map_map, if_pos Option.isSome_some]
    refine List.map_congr_left fun f _ => ?_
    by_cases h : f.1 = k <;> simp [h]

theorem nodup_put (h : (fs.map Prod.fst).Nodup) : ((fs.put k d).map Prod.fst).Nodup := by
  rw [names_put]
  split
  next => exact h
  next hk =>
    rw [Option.not_isSome_iff_eq_none] at hk
    simpa using nodup_map_concat (a := (k, d)) h (get?_eq_none_iff.1 hk)

theorem mem_put (h : f ∈ fs.put k d) : f = (k, d) ∨ f ∈ fs := by
  unfold put at h
  split at h
  next =>
    obtain ⟨g, hg, rfl⟩ := List.mem_map.1 h
    by_cases he : g.1 == k
    · exact .inl (if_pos he)
    · rw [if_neg he]
      exact .inr hg
  next =>
    rw [List.mem_append, List.mem_singleton] at h
    exact h.symm

/-- Entries of distinct names make the table of these entries. -/
theorem ofEntries_eq (h : (fs.map Prod.fst).Nodup) : ofEntries fs = fs := by
  suffices ∀ done : Fields, ((done ++ fs).map Prod.fst).Nodup →
      fs.foldl (fun t f => t.put f.1 f.2) done = done ++ fs from this [] h
  clear h
  induction fs with
  | nil => intro done _; rw [List.append_nil]; rfl
  | cons f fs ih =>
    intro done h
    have hnew : done.get? f.1 = none := by
      rw [get?_eq_none_iff]
      intro g hg he
      rw [List.map_append, List.map_cons] at h
      exact (List.nodup_append.1 h).2.2 g.1 (List.mem_map_of_mem hg) f.1 (List.mem_cons_self ..) he
    have hassoc : done ++ f :: fs = (done ++ [f]) ++ fs := by simp
    rw [List.foldl_cons, put_of_none hnew, hassoc]
    exact ih (done ++ [f]) (hassoc ▸ h)

/-! ## A table made from names -/

/-- The table with an entry for each of the names that has one. -/
def ofNames (names : List String) (given : String → Option Datum) : Fields :=
  names.filterMap fun n => (given n).map (n, ·)

variable {names : List String} {given : String → Option Datum}

theorem mem_ofNames : f ∈ ofNames names given ↔ f.1 ∈ names ∧ given f.1 = some f.2 := by
  obtain ⟨n, d⟩ := f
  simp only [ofNames, List.mem_filterMap, Option.map_eq_some_iff, Prod.mk.injEq]
  constructor
  · rintro ⟨n, hn, d, hd, rfl, rfl⟩
    exact ⟨hn, hd⟩
  · rintro ⟨hn, hd⟩
    exact ⟨n, hn, d, hd, rfl, rfl⟩

theorem get?_ofNames : (ofNames names given).get? n = if n ∈ names then given n else none := by
  induction names with
  | nil => rfl
  | cons m names ih =>
    unfold ofNames at ih ⊢
    rw [List.filterMap_cons]
    cases hm : given m with
    | none =>
      rw [Option.map_none, ih]
      by_cases h : n = m
      · subst h
        simp [hm]
      · simp [h]
    | some d =>
      rw [Option.map_some, get?_cons, ih]
      by_cases h : n = m
      · subst h
        simp [hm]
      · simp [h, Ne.symm h]

theorem nodup_ofNames (h : names.Nodup) : ((ofNames names given).map Prod.fst).Nodup := by
  refine h.sublist ?_
  clear h
  induction names with
  | nil => exact List.nil_sublist _
  | cons m names ih =>
    unfold ofNames at ih ⊢
    rw [List.filterMap_cons]
    cases given m with
    | none => exact ih.cons m
    | some d => exact ih.cons_cons m

/-! ## A table laid over another -/

end Fields

/-- A value laid over another: two tables are laid over each other. -/
def Datum.overWithin (depth : Nat) (new old : Datum) : Datum :=
  match new, old with
  | .table new, .table old => .table (Fields.overWithin depth new old)
  | d, _ => d

namespace Fields

variable {fs upper lower : Fields} {k n : String} {d old : Datum} {p : String → Bool}
  {f : String × Datum} {depth : Nat}

/-- The entry under a name once a value is laid over it. -/
def laid (depth : Nat) (lower : Fields) (k : String) (d : Datum) : Datum :=
  match lower.get? k with
  | some old => d.overWithin depth old
  | none => d

theorem overWithin_cons : overWithin (depth + 1) (f :: upper) lower =
    overWithin (depth + 1) upper (lower.put f.1 (laid depth lower f.1 f.2)) := by
  obtain ⟨k, d⟩ := f
  rw [overWithin, List.foldl_cons, overWithin]
  congr 1
  unfold laid
  cases hk : lower.get? k with
  | none => cases d <;> rfl
  | some old => cases d <;> cases old <;> rfl

/-- What a search finds in a table that is laid over another: the first entry that the
    lower one holds, with its value from the upper one if it has one, and otherwise the
    first entry of the upper one. -/
theorem find?_overWithin (h : (upper.map Prod.fst).Nodup) :
    ((overWithin (depth + 1) upper lower).find? fun f => p f.1) =
      match lower.find? fun f => p f.1 with
      | some f => some (f.1, ((upper.get? f.1).map (·.overWithin depth f.2)).getD f.2)
      | none => upper.find? fun f => p f.1 := by
  induction upper generalizing lower with
  | nil =>
    rw [overWithin, List.foldl_nil]
    cases lower.find? fun f => p f.1 <;> rfl
  | cons f upper ih =>
    obtain ⟨k, d⟩ := f
    obtain ⟨hk, hnodup⟩ := List.nodup_cons.1 h
    -- The entries above it have other names and leave this one as it was put.
    have hlast : get? upper k = none := by
      rw [get?_eq_none_iff]
      rintro g hg rfl
      exact hk (List.mem_map.2 ⟨g, hg, rfl⟩)
    rw [overWithin_cons, ih hnodup, find?_put]
    cases hf : lower.find? fun f => p f.1 with
    | none =>
      cases hp : p k with
      | false => simp [hp]
      | true =>
        have hnone : lower.get? k = none := by
          rw [get?_eq_none_iff]
          rintro g hg rfl
          exact List.find?_eq_none.1 hf g hg hp
        simp [hp, hlast, laid, hnone]
    | some g =>
      by_cases he : g.1 = k
      · subst he
        simp [hlast, laid, get?_of_find? hf, get?_cons]
      · simp [he, Ne.symm he, get?_cons]

theorem get?_overWithin (h : (upper.map Prod.fst).Nodup) :
    (overWithin (depth + 1) upper lower).get? n =
      match lower.get? n with
      | some old => some (((upper.get? n).map (·.overWithin depth old)).getD old)
      | none => upper.get? n := by
  have hlower : lower.get? n = (lower.find? fun f => f.1 == n).map Prod.snd := get?_eq_find?
  rw [get?_eq_find?, find?_overWithin (p := fun m => m == n) h, hlower]
  cases hf : lower.find? fun f => f.1 == n with
  | none => exact get?_eq_find?.symm
  | some f =>
    obtain rfl : f.1 = n := by simpa using List.find?_some hf
    rfl

theorem mem_names_overWithin (h : f ∈ overWithin depth upper lower) :
    f.1 ∈ upper.map Prod.fst ∨ f.1 ∈ lower.map Prod.fst := by
  cases depth with
  | zero => exact .inr (List.mem_map_of_mem h)
  | succ depth =>
    induction upper generalizing lower with
    | nil => exact .inr (List.mem_map_of_mem h)
    | cons g upper ih =>
      rw [overWithin_cons] at h
      rcases ih h with hu | hl
      · exact .inl (List.mem_cons_of_mem _ hu)
      · rw [names_put] at hl
        split at hl
        next => exact .inr hl
        next =>
          rw [List.mem_append, List.mem_singleton] at hl
          rcases hl with hl | hl
          · exact .inr hl
          · exact .inl (hl ▸ List.mem_cons_self ..)

/-! ## The whole depth -/

theorem depth_le_depthOfFields (h : f ∈ fs) : f.2.depth ≤ Datum.depth.depthOfFields fs := by
  induction fs with
  | nil => cases h
  | cons g fs ih =>
    rw [Datum.depth.depthOfFields]
    rcases List.mem_cons.1 h with rfl | h
    · exact Nat.le_max_left ..
    · exact (ih h).trans (Nat.le_max_right ..)

theorem get?_over (h : (upper.map Prod.fst).Nodup) : (upper.over lower).get? n =
    match lower.get? n with
    | some old => some (((upper.get? n).map
        (·.overWithin (Datum.depth.depthOfFields upper) old)).getD old)
    | none => upper.get? n := by
  rw [Fields.over, Datum.depth]
  exact get?_overWithin h

/-- A table is laid over another under a name that both hold. -/
theorem get?_over_table {t u : Fields} (h : (upper.map Prod.fst).Nodup)
    (hu : upper.get? n = some (.table t)) (hl : lower.get? n = some (.table u)) :
    ∃ depth, (upper.over lower).get? n = some (.table (overWithin (depth + 1) t u)) := by
  have hdepth : 0 < Datum.depth.depthOfFields upper := by
    refine Nat.lt_of_lt_of_le ?_ (depth_le_depthOfFields (mem_of_get? hu))
    rw [Datum.depth]
    exact Nat.succ_pos _
  obtain ⟨depth, hdepth⟩ := Nat.exists_eq_add_of_lt hdepth
  rw [Nat.zero_add] at hdepth
  refine ⟨depth, ?_⟩
  rw [get?_over h, hl, hu, hdepth]
  rfl

end Fields

end ReviewRota
