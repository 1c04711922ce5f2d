/-
  ReviewRota — variables.

  What the environment gives is read twice: once for all settings, where each variable is
  put into the table of its section in turn, and once for each section by itself, where
  the variable of each entry is looked up.  Where all of it is valid, both ways find the
  same.

  * `Environment.nodup_ofPairs`: no name is left twice, in whatever case names are given;
  * `Section.Reads.own_eq`: what a section finds by itself;
  * `Section.foldlM_absorb`: what is found once variables have been put in, one by one;
  * `Section.fromRoot?_eq`: what is found for the section among all.
-/
import ReviewRota.Proofs.Sections

namespace ReviewRota.Settings

variable {α : Type} {s : Section α} {es : List (Entry α)} {e : Entry α} {env : Environment}
  {fs told : Fields} {n : String} {d : Datum}

/-! ## The environment -/

namespace Environment

theorem get?_cons {v : String × String} :
    get? (v :: env) n = if v.1 = n then some v.2 else get? env n := lookup_cons_ite

theorem mem_of_get? {v : String} (h : env.get? n = some v) : (n, v) ∈ env := mem_of_lookup h

theorem get?_eq_none (h : ∀ v ∈ env, v.1 ≠ n) : env.get? n = none := lookup_eq_none h

theorem nodup_ofPairs {pairs : List (String × String)} :
    ((ofPairs pairs).map Prod.fst).Nodup := by
  unfold ofPairs
  suffices ∀ start : Environment, (start.map Prod.fst).Nodup →
      ((pairs.foldl _ start).map Prod.fst).Nodup from this [] List.nodup_nil
  induction pairs with
  | nil => exact fun _ h => h
  | cons p pairs ih =>
    intro start hnodup
    rw [List.foldl_cons]
    refine ih _ ?_
    dsimp only
    split
    next =>
      have hsame : Prod.fst ∘ (fun q : String × String =>
          if q.1 == Text.lower p.1 then (Text.lower p.1, p.2) else q) = Prod.fst := by
        funext q
        by_cases h : q.1 = Text.lower p.1 <;> simp [h]
      rw [List.map_map, hsame]
      exact hnodup
    next h =>
      refine nodup_map_concat hnodup fun q hq he => h ?_
      exact List.any_eq_true.2 ⟨q, hq, beq_iff_eq.2 he⟩

end Environment

namespace Section.Reads

variable (hr : s.Reads es) (hv : s.Valid es env fs)
include hr hv

/-- A variable for an entry is worth something that the entry takes. -/
theorem worth (he : e ∈ es) {v : String} (h : (s.beginning variableRoot ++ e.name, v) ∈ env) :
    ∃ d, s.worth? e.name v = some d ∧ e.takes d := by
  obtain ⟨e', he', hname, hany⟩ := hv.single _ h (by simp)
  obtain rfl : e = e' := hr.eq_of_name he he' ((String.append_right_inj _).1 hname)
  obtain ⟨d, hd, ht⟩ := (Option.any_eq_true _ _).1 hany
  exact ⟨d, hd, ht⟩

theorem told_takes (he : e ∈ es) (h : s.told? env e.name = some d) : e.takes d := by
  obtain ⟨v, hget, hd⟩ := Option.bind_eq_some_iff.1 h
  obtain ⟨d', hd', ht⟩ := hr.worth hv he (Environment.mem_of_get? hget)
  rw [hd'] at hd
  exact Option.some.inj hd ▸ ht

end Section.Reads

/-! ## A section by itself -/

theorem fromJson_eq {field v : String} (h : (Json.parse v).toOption = some d) :
    fromJson field v = .ok d := by
  unfold fromJson
  cases hp : Json.parse v with
  | error => rw [hp] at h; cases h
  | ok d' =>
    rw [hp] at h
    cases h
    rfl

theorem mapM_eq {β ε γ : Type} {f : β → Except ε γ} {g : β → γ} {l : List β}
    (h : ∀ b ∈ l, f b = .ok (g b)) : l.mapM f = .ok (l.map g) := by
  induction l with
  | nil => rfl
  | cons b l ih =>
    obtain ⟨hb, hl⟩ := List.forall_mem_cons.1 h
    rw [List.mapM_cons, hb, ih hl]
    rfl

namespace Section.Reads

variable (hr : s.Reads es) (hv : s.Valid es env fs)
include hr hv

theorem entryOf?_eq (hn : n ∈ s.entries) :
    s.entryOf? env (s.beginning variableRoot) n = .ok ((s.told? env n).map (n, ·)) := by
  obtain ⟨e, he, rfl⟩ := hr.exists_entry hn
  unfold Section.entryOf? Section.told?
  cases hget : env.get? (s.beginning variableRoot ++ e.name) with
  | none => rfl
  | some v =>
    obtain ⟨d, hd, ht⟩ := hr.worth hv he (Environment.mem_of_get? hget)
    rw [Option.bind_some, hd]
    unfold Section.worth? at hd
    split at hd
    next hlist =>
      dsimp only
      rw [if_pos hlist, fromJson_eq hd]
      -- The one value that the environment leaves aside is none that the entry takes.
      cases d with
      | null =>
        rw [hr.nulls e he hlist] at ht
        cases ht
      | _ => rfl
    next hlist =>
      dsimp only
      rw [if_neg hlist, Option.some.inj hd]
      rfl

/-- What the environment gives for the section. -/
theorem own_eq :
    s.own env (s.beginning variableRoot) = .ok (.ofNames s.entries (s.told? env)) := by
  unfold Section.own
  rw [mapM_eq fun n hn => hr.entryOf?_eq hv hn]
  show Except.ok _ = Except.ok _
  rw [List.filterMap_map]
  rfl

end Section.Reads

/-! ## A section among all -/

/-- The table has an entry for each of those that the environment gives. -/
structure Section.Told (s : Section α) (env : Environment) (told : Fields) : Prop where
  names : (told.map Prod.fst).Nodup
  entries : ∀ f ∈ told, f.1 ∈ s.entries
  get? : ∀ n ∈ s.entries, told.get? n = s.told? env n

namespace Section

theorem told?_cons {v : String × String} : s.told? (v :: env) n =
    if v.1 = s.beginning variableRoot ++ n then s.worth? n v.2 else s.told? env n := by
  unfold told?
  rw [Environment.get?_cons]
  split <;> rfl

/-- The value of a variable for an entry is what it is worth; no text is JSON if it is
    empty. -/
theorem valueAt_eq {v : String} (hd : s.worth? n v = some d) : s.valueAt [] n v = .ok d := by
  unfold valueAt
  unfold worth? at hd
  split at hd
  next hlist =>
    have hne : v ≠ "" := by
      rintro rfl
      rw [show (Json.parse "").toOption = none by rfl] at hd
      cases hd
    rw [hlist, if_pos (by simp [hne]), fromJson_eq hd]
  next hlist => rw [Bool.eq_false_iff.2 hlist, if_neg (by simp), Option.some.inj hd]

/-- A variable for an entry puts that entry into the table: its name has one step. -/
theorem absorb_eq (hr : s.Reads es) (he : e ∈ es) {v : String}
    (hd : s.worth? e.name v = some d) :
    s.absorb (s.beginning variableRoot) fs (s.beginning variableRoot ++ e.name, v) =
      .ok (fs.put e.name d) := by
  have hprefix : (s.beginning variableRoot).toList.isPrefixOf
      (s.beginning variableRoot ++ e.name).toList := by simp
  have hpath : (steps ((s.beginning variableRoot ++ e.name).toList.drop
      (s.beginning variableRoot).toList.length)).map String.ofList = [e.name] := by
    rw [String.toList_append, List.drop_left, hr.spelt.steps _ (hr.name_mem he), List.map_singleton,
      String.ofList_toList]
  unfold absorb
  dsimp only
  rw [if_pos hprefix, hpath]
  show (s.valueAt [] e.name v >>= _) = _
  rw [valueAt_eq hd]
  rfl

/-- A variable of another beginning says nothing. -/
theorem absorb_other {v : String × String}
    (h : ¬ (s.beginning variableRoot).toList.isPrefixOf v.1.toList) :
    s.absorb (s.beginning variableRoot) fs v = .ok fs := by
  unfold absorb
  dsimp only
  rw [if_neg h]
  rfl

/-- What is valid stays so without the first variable. -/
theorem Valid.tail {v : String × String} (hv : s.Valid es (v :: env) fs) : s.Valid es env fs where
  file := hv.file
  whole v h := hv.whole v (List.mem_cons_of_mem _ h)
  single v h := hv.single v (List.mem_cons_of_mem _ h)

/-- Variables in turn: the table has an entry of each. -/
theorem foldlM_absorb (hr : s.Reads es) (hv : s.Valid es env fs)
    (henv : (env.map Prod.fst).Nodup) {start : Fields} (hstart : (start.map Prod.fst).Nodup)
    (hentries : ∀ f ∈ start, f.1 ∈ s.entries) :
    ∃ told, env.foldlM (s.absorb (s.beginning variableRoot)) start = .ok told ∧
      (told.map Prod.fst).Nodup ∧ (∀ f ∈ told, f.1 ∈ s.entries) ∧
      ∀ n ∈ s.entries, told.get? n = (s.told? env n).or (start.get? n) := by
  induction env generalizing start with
  | nil => exact ⟨start, rfl, hstart, hentries, fun _ _ => rfl⟩
  | cons v env ih =>
    obtain ⟨hnew, hrest⟩ := List.nodup_cons.1 henv
    rw [List.foldlM_cons]
    by_cases hprefix : (s.beginning variableRoot).toList.isPrefixOf v.1.toList
    · obtain ⟨e, he, hname, -⟩ := hv.single v (List.mem_cons_self ..) hprefix
      obtain ⟨k, v⟩ := v
      obtain rfl : k = s.beginning variableRoot ++ e.name := hname
      obtain ⟨d, hd, -⟩ := hr.worth hv he (List.mem_cons_self ..)
      -- No later variable has this name: the entry put in last is the one that is looked up.
      have hlast : s.told? env e.name = none := by
        unfold told?
        rw [Environment.get?_eq_none fun v hv hne => hnew (List.mem_map.2 ⟨v, hv, hne⟩)]
        rfl
      rw [absorb_eq hr he hd]
      obtain ⟨told, htold, hnodup, hin, hget⟩ := ih hv.tail hrest
        (Fields.nodup_put (k := e.name) (d := d) hstart) fun f hf => by
          rcases Fields.mem_put hf with rfl | hf
          · exact hr.name_mem he
          · exact hentries f hf
      refine ⟨told, htold, hnodup, hin, fun n hn => ?_⟩
      rw [hget n hn, told?_cons, Fields.get?_put]
      by_cases hne : e.name = n
      · subst hne
        rw [if_pos rfl, if_pos rfl, hlast, hd]
        rfl
      · rw [if_neg hne, if_neg fun h => hne ((String.append_right_inj _).1 h)]
    · rw [absorb_other hprefix]
      obtain ⟨told, htold, hnodup, hin, hget⟩ := ih hv.tail hrest hstart hentries
      refine ⟨told, htold, hnodup, hin, fun n hn => ?_⟩
      rw [hget n hn, told?_cons, if_neg]
      intro hname
      rw [hname] at hprefix
      exact hprefix (by simp)

theorem respelt_eq (hr : s.Reads es) (ht : s.Told env told) : s.respelt told = told := by
  have hsame : ∀ f ∈ told,
      ((s.entries.find? (Text.sameLetters · f.1)).getD f.1, f.2) = f := by
    intro f hf
    have hn := ht.entries f hf
    cases hfind : s.entries.find? (Text.sameLetters · f.1) with
    | none => rfl
    | some m =>
      obtain rfl : m = f.1 := hr.spelt.letters m (List.mem_of_find?_eq_some hfind) f.1 hn
        (by simpa using List.find?_some hfind)
      rfl
  unfold respelt
  rw [List.map_congr_left hsame, List.map_id', Fields.ofEntries_eq ht.names]

/-- What the environment says of the section is a table of what it gives for the entries,
    if it gives any. -/
theorem fromRoot?_eq (hr : s.Reads es) (hv : s.Valid es env fs)
    (henv : (env.map Prod.fst).Nodup) : ∃ told, s.Told env told ∧
      s.fromRoot? variableRoot env =
        .ok (if told.isEmpty then none else some (.table told)) := by
  have hempty : (([] : Fields).map Prod.fst).Nodup := List.nodup_nil
  obtain ⟨told, htold, hnodup, hin, hget⟩ :=
    foldlM_absorb hr hv henv hempty fun _ hf => by cases hf
  have ht : s.Told env told :=
    ⟨hnodup, hin, fun n hn => (hget n hn).trans (Option.or_none ..)⟩
  refine ⟨told, ht, ?_⟩
  unfold fromRoot?
  rw [Environment.get?_eq_none hv.whole]
  dsimp only
  rw [show s.scattered variableRoot env = .ok told from htold]
  show Except.ok _ = _
  rw [respelt_eq hr ht]

end Section

end ReviewRota.Settings
