/-
  ReviewRota — the tables of a settings file.

  A settings file is refused when it declares a name twice.  So each table of a file that
  is read, the whole file included, names every entry once: whatever a statement changes
  keeps the names apart, and so do all statements in turn.

  * `Datum.Distinct`: in all tables of the value, also those further inside, every name
    stands once;
  * `Toml.within_distinct` and `Toml.statement_distinct`: a change of one table, and a
    statement, keep that;
  * `Toml.parse_distinct`: all that a settings file gives is of this kind.
-/
import ReviewRota.Datum.Toml
import ReviewRota.Proofs.Tables

namespace ReviewRota

/-! ## Names that stand once -/

/-- In every table of the value, itself included, each name stands once. -/
inductive Datum.Distinct : Datum → Prop
  | table {fs : Fields} (names : (fs.map Prod.fst).Nodup) (entries : ∀ f ∈ fs, Distinct f.2) :
    Distinct (.table fs)
  | list {ds : List Datum} (items : ∀ d ∈ ds, Distinct d) : Distinct (.list ds)
  | plain {d : Datum} (parts : Toml.hasParts d = false) : Distinct d

/-- The names of the table stand once, and so do those of the tables inside it. -/
structure Fields.Distinct (fs : Fields) : Prop where
  names : (fs.map Prod.fst).Nodup
  entries : ∀ f ∈ fs, f.2.Distinct

theorem Datum.distinct_table {fs : Fields} : (Datum.table fs).Distinct ↔ fs.Distinct := by
  constructor
  · rintro (⟨names, entries⟩ | _ | h)
    · exact ⟨names, entries⟩
    · cases h
  · exact fun h => .table h.names h.entries

theorem Datum.distinct_list {ds : List Datum} :
    (Datum.list ds).Distinct ↔ ∀ d ∈ ds, d.Distinct := by
  constructor
  · rintro (_ | items | h)
    · exact items
    · cases h
  · exact .list

namespace Fields.Distinct

variable {fs : Fields} {k : String} {d : Datum}

theorem empty : Fields.Distinct [] := ⟨List.nodup_nil, nofun⟩

theorem get? (h : fs.Distinct) (hk : fs.get? k = some d) : d.Distinct :=
  h.entries _ (mem_of_get? hk)

theorem put (h : fs.Distinct) (hd : d.Distinct) : (fs.put k d).Distinct := by
  refine ⟨nodup_put h.names, fun f hf => ?_⟩
  rcases mem_put hf with rfl | hf
  · exact hd
  · exact h.entries f hf

/-- An entry of a new name at the end. -/
theorem concat (h : fs.Distinct) (hk : fs.get? k = none) (hd : d.Distinct) :
    Fields.Distinct (fs ++ [(k, d)]) :=
  put_of_none hk ▸ h.put hd

end Fields.Distinct

/-! ## What a settings file gives -/

namespace Toml

variable {fs fs' : Fields} {d : Datum} {cs r : List Char} {k : List String} {n around : Nat}

@[simp] theorem demand_eq_ok {α : Type} {o : Option α} {a : α} : demand o = .ok a ↔ o = some a := by
  cases o <;> simp [demand]

theorem addEntry_distinct {name : String} (h : fs.Distinct) (hd : d.Distinct)
    (ha : addEntry name d fs = some fs') : fs'.Distinct := by
  unfold addEntry at ha
  split at ha
  next => cases ha
  next hk =>
    obtain rfl := Option.some.inj ha
    exact h.concat (Option.not_isSome_iff_eq_none.1 hk) hd

theorem addItem_distinct {name : String} (h : fs.Distinct) (ha : addItem name fs = some fs') :
    fs'.Distinct := by
  have hempty : (Datum.table []).Distinct := Datum.distinct_table.2 .empty
  unfold addItem at ha
  split at ha
  next hk =>
    obtain rfl := Option.some.inj ha
    refine h.concat hk (.list fun d hd => ?_)
    rwa [List.mem_singleton.1 hd]
  next ds hk =>
    obtain rfl := Option.some.inj ha
    refine h.put (.list fun d hd => ?_)
    rcases List.mem_append.1 hd with hd | hd
    · exact Datum.distinct_list.1 (h.get? hk) d hd
    · rwa [List.mem_singleton.1 hd]
  next => cases ha

/-- A change of a table inside keeps the names distinct if it keeps those of that table. -/
theorem within_distinct {lists : Bool} {change : Fields → Option Fields}
    (hc : ∀ {fs fs'}, Fields.Distinct fs → change fs = some fs' → fs'.Distinct)
    (h : fs.Distinct) (hw : within lists change k fs = some fs') : fs'.Distinct := by
  induction k generalizing fs fs' with
  | nil => exact hc h hw
  | cons k ks ih =>
    unfold within at hw
    split at hw
    next =>
      obtain ⟨t, ht, rfl⟩ := Option.map_eq_some_iff.1 hw
      exact h.put (Datum.distinct_table.2 (ih .empty ht))
    next t hk =>
      obtain ⟨t', ht, rfl⟩ := Option.map_eq_some_iff.1 hw
      exact h.put (Datum.distinct_table.2 (ih (Datum.distinct_table.1 (h.get? hk)) ht))
    next ds hk =>
      -- A list of tables stands for the last of them; the others stay.
      have hds := Datum.distinct_list.1 (h.get? hk)
      split at hw
      next t hlast =>
        obtain ⟨t', ht, rfl⟩ := Option.map_eq_some_iff.1 hw
        have hlast := hds _ (List.mem_of_getLast? hlast)
        refine h.put (.list fun d hd => ?_)
        rcases List.mem_append.1 hd with hd | hd
        · exact hds d (List.mem_of_mem_dropLast hd)
        · rw [List.mem_singleton.1 hd]
          exact Datum.distinct_table.2 (ih (Datum.distinct_table.1 hlast) ht)
      next => cases hw
    next => cases hw

theorem based_plain {p : Char → Bool} {base : Nat} (h : based p base cs = some (d, r)) :
    hasParts d = false := by
  unfold based at h
  dsimp only at h
  split at h
  next => cases h
  next => cases h; rfl

theorem decimal_plain (h : decimal cs = .ok (d, r)) : hasParts d = false := by
  unfold decimal at h
  dsimp only at h
  split at h
  all_goals
    split at h
    next => cases h
    next =>
      split at h
      next =>
        split at h
        next => cases h
        next => cases h; rfl
      next => cases h; rfl

theorem number_plain (h : number cs = .ok (d, r)) : hasParts d = false := by
  unfold number at h
  dsimp only at h
  split at h
  next found hfound =>
    cases h
    split at hfound
    next => exact based_plain hfound
    next => exact based_plain hfound
    next => exact based_plain hfound
    next => cases hfound
  next => exact decimal_plain h

theorem stamp_plain (h : stamp cs = some (some (d, r))) : hasParts d = false := by
  unfold stamp at h
  dsimp only at h
  split at h
  next =>
    split at h
    next => cases h; rfl
    next => cases h
  next =>
    obtain ⟨_, -, h⟩ := Option.map_eq_some_iff.1 h
    cases h
    rfl

theorem special_plain (h : special cs = some (d, r)) : hasParts d = false := by
  unfold special at h
  dsimp only at h
  split at h
  next => cases h; rfl
  next => cases h; rfl
  next => cases h

theorem scalar_plain (h : scalar cs = .ok (d, r)) : hasParts d = false := by
  unfold scalar at h
  split at h
  next =>
    obtain ⟨_, -, h⟩ := Option.map_eq_some_iff.1 (demand_eq_ok.1 h)
    cases h
    rfl
  next =>
    obtain ⟨_, -, h⟩ := Option.map_eq_some_iff.1 (demand_eq_ok.1 h)
    cases h
    rfl
  next =>
    split at h
    next => cases h; rfl
    next => cases h; rfl
    next hstamp _ _ =>
      rw [demand_eq_ok.1 h] at hstamp
      exact stamp_plain hstamp
    next =>
      split at h
      next hfound => cases h; exact special_plain hfound
      next => exact number_plain h

/-- What a reading goes on from where another one was read before it. -/
theorem exists_of_bind {ε α β : Type} {x : Except ε α} {f : α → Except ε β} {b : β}
    (h : (x >>= f) = .ok b) : ∃ a, x = .ok a ∧ f a = .ok b := by
  cases x with
  | error e => cases h
  | ok a => exact ⟨a, rfl, h⟩

/-- With so much work, values, the items of a list and the entries of a table are read
    with distinct names. -/
structure ReadsDistinct (n : Nat) : Prop where
  value {around : Nat} {cs r : List Char} {d : Datum} (h : value n around cs = .ok (d, r)) :
    d.Distinct
  items {around : Nat} {done : List Datum} {cs r : List Char} {d : Datum}
    (hdone : ∀ d ∈ done, d.Distinct) (h : items n around done cs = .ok (d, r)) : d.Distinct
  entries {around : Nat} {closed : List (List String)} {fs : Fields} {cs r : List Char} {d : Datum}
    (hfs : fs.Distinct) (h : entries n around closed fs cs = .ok (d, r)) : d.Distinct

namespace ReadsDistinct

variable (ih : ReadsDistinct n)
include ih

theorem value_succ (h : Toml.value (n + 1) around cs = .ok (d, r)) : d.Distinct := by
  unfold Toml.value at h
  split at h
  next => cases h
  next =>
    split at h
    next => exact ih.items (fun _ hd => by cases hd) h
    next =>
      obtain ⟨rest, -, h⟩ := exists_of_bind h
      split at h
      next => cases h; exact Datum.distinct_table.2 .empty
      next => exact ih.entries .empty h
    next => exact .plain (scalar_plain h)

theorem items_succ {done : List Datum} (hdone : ∀ d ∈ done, d.Distinct)
    (h : Toml.items (n + 1) around done cs = .ok (d, r)) : d.Distinct := by
  unfold Toml.items at h
  obtain ⟨rest, -, h⟩ := exists_of_bind h
  split at h
  next => cases h; exact .list hdone
  next =>
    obtain ⟨⟨item, rest⟩, hitem, h⟩ := exists_of_bind h
    have hmore : ∀ d ∈ done ++ [item], d.Distinct := by
      intro d hd
      rcases List.mem_append.1 hd with hd | hd
      · exact hdone d hd
      · exact List.mem_singleton.1 hd ▸ ih.value hitem
    obtain ⟨rest, -, h⟩ := exists_of_bind h
    split at h
    next => cases h; exact .list hmore
    next => exact ih.items hmore h
    next => cases h

theorem entries_succ {closed : List (List String)} (hfs : fs.Distinct)
    (h : Toml.entries (n + 1) around closed fs cs = .ok (d, r)) : d.Distinct := by
  unfold Toml.entries at h
  split at h
  next =>
    obtain ⟨⟨d, rest⟩, hd, h⟩ := exists_of_bind h
    dsimp only at h
    split at h
    next => cases h
    next =>
      obtain ⟨fs', hadded, h⟩ := exists_of_bind h
      have hfs' : fs'.Distinct :=
        within_distinct (fun hfs ha => addEntry_distinct hfs (ih.value hd) ha) hfs
          (demand_eq_ok.1 hadded)
      obtain ⟨rest, -, h⟩ := exists_of_bind h
      split at h
      next => cases h; exact Datum.distinct_table.2 hfs'
      next =>
        obtain ⟨rest, -, h⟩ := exists_of_bind h
        split at h
        next => cases h; exact Datum.distinct_table.2 hfs'
        next => exact ih.entries hfs' h
      next => cases h
  next => cases h

end ReadsDistinct

/-- The three call each other with less work to do, so that they go together. -/
theorem readsDistinct : ∀ n, ReadsDistinct n
  | 0 =>
    { value := fun h => by unfold value at h; cases h
      items := fun _ h => by unfold items at h; cases h
      entries := fun _ h => by unfold entries at h; cases h }
  | n + 1 =>
    { value := (readsDistinct n).value_succ
      items := (readsDistinct n).items_succ
      entries := (readsDistinct n).entries_succ }

variable {doc doc' : Document}

theorem Document.openTable_distinct (h : doc.table.Distinct) (ho : doc.openTable k = some doc') :
    doc'.table.Distinct := by
  unfold openTable at ho
  split at ho
  next => cases ho
  next =>
    obtain ⟨t, ht, rfl⟩ := Option.map_eq_some_iff.1 ho
    exact within_distinct (fun hfs ha => Option.some.inj ha ▸ hfs) h ht

theorem Document.openItem_distinct (h : doc.table.Distinct) (ho : doc.openItem k = some doc') :
    doc'.table.Distinct := by
  unfold openItem at ho
  split at ho
  next => cases ho
  next =>
    obtain ⟨t, ht, rfl⟩ := Option.map_eq_some_iff.1 ho
    exact within_distinct (fun hfs ha => addItem_distinct hfs ha) h ht

theorem Document.enter_distinct (h : doc.table.Distinct) (hd : d.Distinct)
    (ho : doc.enter k d = some doc') : doc'.table.Distinct := by
  unfold enter at ho
  dsimp only at ho
  split at ho
  next => cases ho
  next =>
    obtain ⟨t, ht, rfl⟩ := Option.map_eq_some_iff.1 ho
    exact within_distinct (fun hfs ha => addEntry_distinct hfs hd ha) h ht

theorem statement_distinct (h : doc.table.Distinct) (hs : statement doc cs = .ok (doc', r)) :
    doc'.table.Distinct := by
  unfold statement at hs
  split at hs
  next =>
    split at hs
    next =>
      obtain ⟨_, ho, hs⟩ := Option.map_eq_some_iff.1 (demand_eq_ok.1 hs)
      cases hs
      exact Document.openItem_distinct (show doc.settled.table.Distinct from h) ho
    next => cases hs
  next =>
    split at hs
    next =>
      obtain ⟨_, ho, hs⟩ := Option.map_eq_some_iff.1 (demand_eq_ok.1 hs)
      cases hs
      exact Document.openTable_distinct (show doc.settled.table.Distinct from h) ho
    next => cases hs
  next =>
    split at hs
    next =>
      obtain ⟨⟨d, rest⟩, hd, hs⟩ := exists_of_bind hs
      obtain ⟨_, ho, hs⟩ := Option.map_eq_some_iff.1 (demand_eq_ok.1 hs)
      cases hs
      exact Document.enter_distinct h ((readsDistinct _).value hd) ho
    next => cases hs

theorem statements_distinct (hdoc : doc.table.Distinct) (h : statements n doc cs = .ok doc') :
    doc'.table.Distinct := by
  induction n generalizing doc cs with
  | zero => cases h
  | succ n ih =>
    unfold statements at h
    split at h
    next => cases h; exact hdoc
    next => exact ih hdoc h
    next =>
      obtain ⟨_, -, h⟩ := exists_of_bind h
      exact ih hdoc h
    next =>
      obtain ⟨⟨doc'', rest⟩, hdoc'', h⟩ := exists_of_bind h
      obtain ⟨_, -, h⟩ := exists_of_bind h
      exact ih (statement_distinct hdoc hdoc'') h

/-- **Names in a settings file.**  A file that is read names every entry of every table
    once. -/
theorem parse_distinct {s : String} (h : parse s = .ok fs) : fs.Distinct := by
  obtain ⟨doc, hdoc, h⟩ := exists_of_bind h
  cases h
  exact statements_distinct .empty hdoc

end Toml

end ReviewRota
