/-
  ReviewRota — where settings come from.

  An entry of a section can be given by the file and by the environment.  The file is
  laid over the environment, entry by entry, and what neither gives is the default.  A
  name in the file that differs in case from that of the entry gives the entry only
  where the environment does not.

  * `Section.source?`: what counts for an entry, and `Section.source?_eq_or`: the file
    where it gives the entry, and otherwise the environment;
  * `Section.Reads.merged_over`: the file laid over the environment has that;
  * `Settings.Valid`: whatever the file and the environment give is one of the entries,
    with a value that it takes;
  * `Settings.load_sourced`: settings are then loaded, and each entry is what counts for
    it, or the default; `Settings.load_file_first`: what the environment gives gives way.
-/
import ReviewRota.Proofs.Documents
import ReviewRota.Proofs.Variables
import ReviewRota.Settings.Load

namespace ReviewRota.Settings

variable {α : Type} {s : Section α} {es : List (Entry α)} {e e' : Entry α} {env : Environment}
  {fs t told : Fields} {n : String} {d : Datum}

/-! ## Entries in any case -/

/-- Where all names are known, what counts is the first entry of each, in any case. -/
theorem chosen_eq {names : List String}
    (hfs : ∀ f ∈ fs, ∃ n ∈ names, Text.sameLetters f.1 n)
    (hd : ∀ n ∈ names, ∀ d ∈ directives, ¬ Text.sameLetters d n) :
    chosen names fs = .ofNames names fs.inAnyCase? := by
  have hall : fs.filter (fun f => !directives.contains f.1) = fs := by
    rw [List.filter_eq_self]
    intro f hf
    obtain ⟨n, hn, hsame⟩ := hfs f hf
    simpa using fun hmem => hd n hn f.1 hmem hsame
  have hnone : fs.filter (fun f => !names.any (Text.sameLetters f.1)) = [] := by
    rw [List.filter_eq_nil_iff]
    intro f hf
    simpa using hfs f hf
  unfold chosen
  dsimp only
  rw [hall, hnone, List.append_nil]
  unfold Fields.ofNames Fields.inAnyCase?
  simp only [Option.map_map]
  rfl

theorem beginningOr_eq {names : List String} {usual : String}
    (hfs : ∀ f ∈ fs, ∃ n ∈ names, Text.sameLetters f.1 n)
    (hd : ∀ n ∈ names, ∀ d ∈ directives, ¬ Text.sameLetters d n) :
    beginningOr usual fs = usual := by
  have hnone : fs.get? "_env_prefix" = none := by
    rw [Fields.get?_eq_none_iff]
    intro f hf he
    obtain ⟨n, hn, hsame⟩ := hfs f hf
    exact hd n hn f.1 (he ▸ by decide +kernel) hsame
  unfold beginningOr
  rw [hnone]

/-! ## What counts -/

namespace Section

/-- **What counts for an entry.**  Under the very name of the entry the file counts over
    the environment; the environment counts over the file under that name in other
    letters. -/
def source? (s : Section α) (env : Environment) (t : Fields) (entry : String) : Option Datum :=
  match s.told? env entry with
  | some d => some ((t.get? entry).getD d)
  | none => t.inAnyCase? entry

/-- Where the file spells the names as the section does, it counts over the environment. -/
theorem source?_eq_or (hr : s.Reads es) (ht : ∀ f ∈ t, f.1 ∈ s.entries) (hn : n ∈ s.entries) :
    s.source? env t n = (t.get? n).or (s.told? env n) := by
  have hsame : t.inAnyCase? n = t.get? n := by
    rw [Fields.get?_eq_find?]
    refine congrArg (Option.map Prod.snd) (List.find?_congr fun f hf => ?_)
    rw [Bool.eq_iff_iff, beq_iff_eq]
    constructor
    · exact hr.spelt.letters _ (ht f hf) _ hn
    · rintro rfl
      exact Text.sameLetters_self _
  unfold source?
  rw [hsame]
  cases s.told? env n <;> cases t.get? n <;> rfl

/-- Every entry of the section is what counts for it, or the default. -/
def Sourced (s : Section α) (es : List (Entry α)) (env : Environment) (fs : Fields) (a : α) :
    Prop :=
  ∀ e ∈ es, e.settle (s.source? env (s.inFile fs) e.name) = .value (e.value a)

/-- What is said of all sections has a table of what the environment gives for this one,
    if it gives anything. -/
def Spoken (s : Section α) (env : Environment) (environment : Fields) : Prop :=
  ∃ told, s.Told env told ∧
    environment.get? s.name = if told.isEmpty then none else some (.table told)

/-- The table has what counts for the entries of the section, and nothing else. -/
structure Merged (s : Section α) (env : Environment) (t g : Fields) : Prop where
  names : ∀ f ∈ g, ∃ n ∈ s.entries, Text.sameLetters f.1 n
  found : ∀ n ∈ s.entries, g.inAnyCase? n = s.source? env t n

end Section

/-- All entries of a table that is laid over another have names that both use. -/
theorem onlyNames_over {upper lower : Fields} {names : List String}
    (hu : ∀ f ∈ upper, f.1 ∈ names) (hl : ∀ f ∈ lower, f.1 ∈ names) :
    (upper.over lower).onlyNames names = .value () := by
  have hnone : (upper.over lower).filter (fun f => !names.contains f.1) = [] := by
    rw [List.filter_eq_nil_iff]
    intro f hf
    have hin : f.1 ∈ names := by
      rcases Fields.mem_names_overWithin hf with h | h
      · obtain ⟨f', hf', hname⟩ := List.mem_map.1 h
        exact hname ▸ hu f' hf'
      · obtain ⟨f', hf', hname⟩ := List.mem_map.1 h
        exact hname ▸ hl f' hf'
    simpa using hin
  unfold Fields.onlyNames
  rw [hnone]

namespace Section.Reads

variable (hr : s.Reads es) (hv : s.Valid es env fs)
include hr hv

theorem file_takes {k : String} (he : e ∈ es) (hg : (k, d) ∈ s.inFile fs)
    (hsame : Text.sameLetters k e.name) : e.takes d := by
  obtain ⟨e', he', hsame', ht⟩ := hv.inFile_takes hg
  exact hr.eq_of_letters he he' (Text.sameLetters_of hsame hsame') ▸ ht

/-- What counts for an entry is a value that it takes. -/
theorem source_takes (he : e ∈ es) (h : s.source? env (s.inFile fs) e.name = some d) :
    e.takes d := by
  unfold Section.source? at h
  split at h
  next d' hd' =>
    cases hget : (s.inFile fs).get? e.name with
    | none =>
      rw [hget] at h
      exact Option.some.inj h ▸ hr.told_takes hv he hd'
    | some d'' =>
      rw [hget] at h
      exact Option.some.inj h ▸
        hr.file_takes hv he (Fields.mem_of_get? hget) (Text.sameLetters_self _)
  next =>
    obtain ⟨k, hk, hsame⟩ := Fields.mem_of_inAnyCase? h
    exact hr.file_takes hv he hk hsame

theorem settle_isValue (he : e ∈ es) :
    (e.settle (s.source? env (s.inFile fs) e.name)).isValue := by
  cases hd : s.source? env (s.inFile fs) e.name with
  | none => rfl
  | some d => exact hr.source_takes hv he hd

/-- A section from the table that has what counts for it. -/
theorem assemble_eq {g : Fields} (hg : s.Merged env (s.inFile fs) g) :
    ∃ a, s.assemble env g = .ok (.value a) ∧ s.Sourced es env fs a := by
  let own := Fields.ofNames s.entries (s.told? env)
  let upper := Fields.ofNames s.entries g.inAnyCase?
  have hupper : (upper.map Prod.fst).Nodup := Fields.nodup_ofNames hr.spelt.nodup
  have hget : ∀ n ∈ s.entries, (upper.over own).get? n = s.source? env (s.inFile fs) n := by
    intro n hn
    obtain ⟨e, he, rfl⟩ := hr.exists_entry hn
    rw [Fields.get?_over hupper, Fields.get?_ofNames, if_pos hn, Fields.get?_ofNames, if_pos hn,
      hg.found _ hn]
    cases htold : s.told? env e.name with
    | none => rfl
    | some old =>
      have hplain := hr.not_isTable he (hr.told_takes hv he htold)
      simp only [Section.source?, htold, Option.map_some, Option.getD_some,
        Datum.overWithin_of_isTable hplain]
  have honly : (upper.over own).onlyNames s.entries = .value () :=
    onlyNames_over (fun _ hf => (Fields.mem_ofNames.1 hf).1) fun _ hf => (Fields.mem_ofNames.1 hf).1
  obtain ⟨a, ha, hentries⟩ := hr.known (upper.over own) fun e he => by
    rw [hget _ (hr.name_mem he)]
    exact hr.settle_isValue hv he
  refine ⟨a, ?_, fun e he => ?_⟩
  · unfold Section.assemble
    rw [beginningOr_eq hg.names hr.spelt.directives, hr.own_eq hv,
      chosen_eq hg.names hr.spelt.directives]
    show Except.ok (formed s.entries s.known (upper.over own)) = _
    unfold formed
    rw [ha, honly]
    rfl
  · rw [← hget _ (hr.name_mem he)]
    exact hentries e he

/-! ## The file laid over the environment -/

/-- The file has nothing laid under it where the environment says nothing. -/
theorem merged_file (ht : s.Told env []) : s.Merged env (s.inFile fs) (s.inFile fs) where
  names f hf := by
    obtain ⟨e, he, hsame, -⟩ := hv.inFile_takes hf
    exact ⟨e.name, hr.name_mem he, hsame⟩
  found n hn := by
    unfold Section.source?
    rw [← ht.get? n hn]
    rfl

theorem merged_over {depth : Nat} (ht : s.Told env told)
    (hnodup : ((s.inFile fs).map Prod.fst).Nodup) :
    s.Merged env (s.inFile fs) (.overWithin (depth + 1) (s.inFile fs) told) where
  names f hf := by
    rcases Fields.mem_names_overWithin hf with h | h
    · obtain ⟨f', hf', hname⟩ := List.mem_map.1 h
      obtain ⟨e, he, hsame, -⟩ := hv.inFile_takes hf'
      exact ⟨e.name, hr.name_mem he, hname ▸ hsame⟩
    · obtain ⟨f', hf', hname⟩ := List.mem_map.1 h
      exact ⟨f.1, hname ▸ ht.entries f' hf', Text.sameLetters_self _⟩
  found n hn := by
    unfold Fields.inAnyCase?
    rw [Fields.find?_overWithin (p := (Text.sameLetters · n)) hnodup]
    cases hf : told.find? fun f => Text.sameLetters f.1 n with
    | none =>
      have hnone : s.told? env n = none := by
        rw [← ht.get? n hn, Fields.get?_eq_none_iff]
        rintro f hmem rfl
        exact List.find?_eq_none.1 hf f hmem (Text.sameLetters_self _)
      unfold Section.source?
      rw [hnone]
      rfl
    | some f =>
      -- Names from the environment are spelt as the section spells them.
      obtain rfl : f.1 = n := hr.spelt.letters _ (ht.entries f (List.mem_of_find?_eq_some hf)) _ hn
        (by simpa using List.find?_some hf)
      have htold : s.told? env f.1 = some f.2 :=
        (ht.get? _ hn).symm.trans (Fields.get?_of_find? (p := (Text.sameLetters · f.1)) hf)
      obtain ⟨e, he, hname⟩ := hr.exists_entry hn
      have hplain : f.2.isTable = false :=
        hr.not_isTable he (hr.told_takes hv he (hname ▸ htold))
      unfold Section.source?
      rw [htold]
      simp only [Datum.overWithin_of_isTable hplain, Option.map_some, Option.map_id_fun', id_eq]

/-- Once the file is laid over the environment, the table of the section has what counts
    for it; where there is no table, nothing counts. -/
theorem exists_merged {upper environment : Fields} (hfs : fs.Distinct)
    (hupper : (upper.map Prod.fst).Nodup) (hfile : upper.get? s.name = fs.inAnyCase? s.name)
    (hspoken : s.Spoken env environment) : ∃ g, s.Merged env (s.inFile fs) g ∧
      ((upper.over environment).get? s.name = some (.table g) ∨
        (upper.over environment).get? s.name = none ∧ g = []) := by
  obtain ⟨told, ht, henv⟩ := hspoken
  cases hd : fs.inAnyCase? s.name with
  | none =>
    have hempty : s.inFile fs = [] := by
      unfold Section.inFile
      rw [hd]
    have hget : (upper.over environment).get? s.name = environment.get? s.name := by
      rw [Fields.get?_over hupper, hfile, hd]
      cases environment.get? s.name <;> rfl
    cases told with
    | nil => exact ⟨[], hempty ▸ hr.merged_file hv ht, .inr ⟨hget.trans henv, rfl⟩⟩
    | cons f told =>
      have hnodup : ((s.inFile fs).map Prod.fst).Nodup := by
        rw [hempty]
        exact List.nodup_nil
      have hmerged : s.Merged env (s.inFile fs) (.overWithin 1 (s.inFile fs) (f :: told)) :=
        hr.merged_over hv ht hnodup
      -- An empty table laid over the other one leaves it as it is.
      rw [hempty] at hmerged ⊢
      exact ⟨f :: told, hmerged, .inl (hget.trans henv)⟩
  | some d =>
    obtain ⟨k, hk, hsame⟩ := Fields.mem_of_inAnyCase? hd
    cases d with
    | table t =>
      have hfileTable : s.inFile fs = t := by
        unfold Section.inFile
        rw [hd]
      have hnodup : ((s.inFile fs).map Prod.fst).Nodup := by
        rw [hfileTable]
        exact (Datum.distinct_table.1 (hfs.entries _ hk)).names
      cases told with
      | nil =>
        refine ⟨t, hfileTable ▸ hr.merged_file hv ht, .inl ?_⟩
        rw [Fields.get?_over hupper, henv, hfile, hd]
        rfl
      | cons f told =>
        obtain ⟨depth, hget⟩ := Fields.get?_over_table hupper (hfile.trans hd) henv
        exact ⟨_, hfileTable ▸ hr.merged_over hv ht hnodup, .inl hget⟩
    | _ =>
      have htable := (hv.file _ hk hsame).1
      cases htable

/-- A section from the table of all. -/
theorem ofRoot_eq {upper environment : Fields} (hfs : fs.Distinct)
    (hupper : (upper.map Prod.fst).Nodup) (hfile : upper.get? s.name = fs.inAnyCase? s.name)
    (hspoken : s.Spoken env environment) :
    ∃ a, s.ofRoot env (upper.over environment) = .ok (.value a) ∧ s.Sourced es env fs a := by
  obtain ⟨g, hg, hroot⟩ := hr.exists_merged hv hfs hupper hfile hspoken
  obtain ⟨a, ha, hsourced⟩ := hr.assemble_eq hv hg
  refine ⟨a, ?_, hsourced⟩
  unfold Section.ofRoot
  rcases hroot with hroot | ⟨hroot, rfl⟩
  · rw [hroot]
    dsimp only
    rw [ha]
    rfl
  · rw [hroot]
    dsimp only
    rw [ha]
    rfl

end Section.Reads

/-! ## All settings -/

/-- All that the file and the environment give are entries of the sections, with values
    that these take. -/
structure Valid (env : Environment) (fs : Fields) : Prop where
  names : ∀ f ∈ fs, ∃ n ∈ names, Text.sameLetters f.1 n
  database : databaseSection.Valid databaseEntries env fs
  logging : loggingSection.Valid loggingEntries env fs
  engine : engineSection.Valid engineEntries env fs
  web : webSection.Valid webEntries env fs

instance : Decidable (Valid env fs) :=
  decidable_of_iff ((∀ f ∈ fs, ∃ n ∈ Settings.names, Text.sameLetters f.1 n) ∧
    databaseSection.Valid databaseEntries env fs ∧ loggingSection.Valid loggingEntries env fs ∧
    engineSection.Valid engineEntries env fs ∧ webSection.Valid webEntries env fs)
    ⟨fun ⟨h₁, h₂, h₃, h₄, h₅⟩ => ⟨h₁, h₂, h₃, h₄, h₅⟩,
      fun ⟨h₁, h₂, h₃, h₄, h₅⟩ => ⟨h₁, h₂, h₃, h₄, h₅⟩⟩

/-- Every entry of every section is what counts for it, or the default. -/
structure Sourced (env : Environment) (fs : Fields) (t : Settings) : Prop where
  database : databaseSection.Sourced databaseEntries env fs t.database
  logging : loggingSection.Sourced loggingEntries env fs t.logging
  engine : engineSection.Sourced engineEntries env fs t.engine
  web : webSection.Sourced webEntries env fs t.web

/-- What the environment says of the four sections. -/
def spoken (database logging engine web : Option Datum) : Fields :=
  [("database", database), ("logging", logging), ("engine", engine), ("web", web)].filterMap
    fun s => s.2.map fun d => (s.1, d)

theorem get?_spoken {database logging engine web : Option Datum} :
    (spoken database logging engine web).get? "database" = database ∧
    (spoken database logging engine web).get? "logging" = logging ∧
    (spoken database logging engine web).get? "engine" = engine ∧
    (spoken database logging engine web).get? "web" = web := by
  cases database <;> cases logging <;> cases engine <;> cases web <;>
    simp [spoken, Fields.get?_cons]

theorem mem_spoken {database logging engine web : Option Datum} {f : String × Datum}
    (h : f ∈ spoken database logging engine web) : f.1 ∈ names := by
  obtain ⟨g, hg, hf⟩ := List.mem_filterMap.1 h
  obtain ⟨d, -, rfl⟩ := Option.map_eq_some_iff.1 hf
  simp only [List.mem_cons, List.not_mem_nil, or_false] at hg
  rcases hg with rfl | rfl | rfl | rfl <;> simp [names]

/-- The environment is read, and says of each section what it gives for its entries. -/
theorem fromEnvironment_eq (henv : (env.map Prod.fst).Nodup) (h : Valid env fs) :
    ∃ environment, fromEnvironment variableRoot env = .ok environment ∧
      (∀ f ∈ environment, f.1 ∈ names) ∧
      databaseSection.Spoken env environment ∧ loggingSection.Spoken env environment ∧
      engineSection.Spoken env environment ∧ webSection.Spoken env environment := by
  obtain ⟨told₁, ht₁, hsaid₁⟩ := Section.fromRoot?_eq databaseSection_reads h.database henv
  obtain ⟨told₂, ht₂, hsaid₂⟩ := Section.fromRoot?_eq loggingSection_reads h.logging henv
  obtain ⟨told₃, ht₃, hsaid₃⟩ := Section.fromRoot?_eq engineSection_reads h.engine henv
  obtain ⟨told₄, ht₄, hsaid₄⟩ := Section.fromRoot?_eq webSection_reads h.web henv
  obtain ⟨hget₁, hget₂, hget₃, hget₄⟩ : _ ∧ _ ∧ _ ∧ _ := get?_spoken
  refine ⟨spoken _ _ _ _, ?_, fun _ hf => mem_spoken hf, ⟨told₁, ht₁, hget₁⟩, ⟨told₂, ht₂, hget₂⟩,
    ⟨told₃, ht₃, hget₃⟩, ⟨told₄, ht₄, hget₄⟩⟩
  unfold fromEnvironment
  rw [hsaid₁, hsaid₂, hsaid₃, hsaid₄]
  rfl

theorem assemble_eq (hfs : fs.Distinct) (henv : (env.map Prod.fst).Nodup) (h : Valid env fs) :
    ∃ t : Settings, assemble env fs = .ok (.value t) ∧ t.Sourced env fs := by
  have hdirectives : ∀ n ∈ names, ∀ d ∈ directives, ¬ Text.sameLetters d n := by decide +kernel
  obtain ⟨environment, henvironment, hnames, hs₁, hs₂, hs₃, hs₄⟩ := fromEnvironment_eq henv h
  let upper := Fields.ofNames names fs.inAnyCase?
  have hupper : (upper.map Prod.fst).Nodup := Fields.nodup_ofNames (by decide +kernel)
  have hfile : ∀ n ∈ names, upper.get? n = fs.inAnyCase? n :=
    fun n hn => Fields.get?_ofNames.trans (if_pos hn)
  obtain ⟨database, hdatabase, h₁⟩ := databaseSection_reads.ofRoot_eq h.database hfs hupper
    (hfile _ (by simp [names, databaseSection])) hs₁
  obtain ⟨logging, hlogging, h₂⟩ := loggingSection_reads.ofRoot_eq h.logging hfs hupper
    (hfile _ (by simp [names, loggingSection])) hs₂
  obtain ⟨engine, hengine, h₃⟩ := engineSection_reads.ofRoot_eq h.engine hfs hupper
    (hfile _ (by simp [names, engineSection])) hs₃
  obtain ⟨web, hweb, h₄⟩ := webSection_reads.ofRoot_eq h.web hfs hupper
    (hfile _ (by simp [names, webSection])) hs₄
  have honly : (upper.over environment).onlyNames names = .value () :=
    onlyNames_over (fun _ hf => (Fields.mem_ofNames.1 hf).1) hnames
  refine ⟨⟨database, logging, engine, web⟩, ?_, ⟨h₁, h₂, h₃, h₄⟩⟩
  unfold assemble
  rw [beginningOr_eq h.names hdirectives, henvironment, chosen_eq h.names hdirectives]
  show (databaseSection.ofRoot env (upper.over environment) >>= _) = _
  rw [hdatabase]
  show (loggingSection.ofRoot env (upper.over environment) >>= _) = _
  rw [hlogging]
  show (engineSection.ofRoot env (upper.over environment) >>= _) = _
  rw [hengine]
  show (webSection.ofRoot env (upper.over environment) >>= _) = _
  rw [hweb]
  show Except.ok (_ <*> (upper.over environment).onlyNames names) = _
  rw [honly]
  rfl

/-! ## The settings that are loaded -/

variable {files : Files} {usual : List String} {named : Option String}
  {file : Option (String × String)} {pairs : List (String × String)}

theorem fileTable_distinct (h : fileTable file = .ok fs) : fs.Distinct := by
  unfold fileTable at h
  split at h
  next =>
    cases h
    exact .empty
  next =>
    split at h
    next hparse =>
      cases h
      exact Toml.parse_distinct hparse
    next => cases h
    next => cases h
    next => cases h

/-- **Where settings come from.**  Whatever file there is and whatever variables are set,
    if all that they give is valid then there are settings, and every entry of every
    section is what counts for it: what the file gives, otherwise what the environment
    gives, otherwise the default. -/
theorem load_sourced (hfile : locate files usual named = .ok file)
    (hfs : fileTable file = .ok fs) (h : Valid (.ofPairs pairs) fs) :
    ∃ t, load (.ofPairs pairs) files usual named = .ok t ∧ t.Sourced (.ofPairs pairs) fs := by
  obtain ⟨t, ht, hsourced⟩ :=
    assemble_eq (fileTable_distinct hfs) Environment.nodup_ofPairs h
  refine ⟨t, ?_, hsourced⟩
  simp only [load, hfile, hfs, bind, Except.bind, ht]
  rfl

/-- A file that gives the number of reviewers, and variables that give it too and the
    length of a list besides. -/
theorem load_sourced_both :
    let pairs := [("REVIEWPOOL_ENGINE__MAX_REVIEWERS", "4"), ("PATH", "/bin"),
      ("reviewpool_engine__default_stats_limit", "7")]
    let files := [("named.toml", "[engine]\nmax_reviewers = 3\n")]
    ∃ fs t, fileTable files.head? = .ok fs ∧
      load (.ofPairs pairs) files [] (some "named.toml") = .ok t ∧ t.Sourced (.ofPairs pairs) fs ∧
      t.engine = { maxReviewers := 3, defaultLimit := 7 } ∧ t.web = {} := by
  intro pairs files
  have hvalid : (fileTable files.head?).toOption.any
      (fun fs => decide (Valid (.ofPairs pairs) fs)) = true := by decide +kernel
  have hload : (load (.ofPairs pairs) files [] (some "named.toml")).toOption.map
      (fun t => (t.engine, t.web)) = some ({ maxReviewers := 3, defaultLimit := 7 }, {}) := by
    decide +kernel
  cases hfs : fileTable files.head? with
  | error => rw [hfs] at hvalid; cases hvalid
  | ok fs =>
    rw [hfs] at hvalid
    have hfile : locate files [] (some "named.toml") = .ok files.head? := by
      simp [locate, files]
    obtain ⟨t, ht, hsourced⟩ := load_sourced hfile hfs (of_decide_eq_true hvalid)
    rw [ht] at hload
    obtain ⟨hengine, hweb⟩ := Prod.mk.inj (Option.some.inj hload)
    exact ⟨fs, t, rfl, ht, hsourced, hengine, hweb⟩

example :
    let env := Environment.ofPairs [("REVIEWPOOL_ENGINE__MAX_REVIEWERS", "4")]
    let files := [("named.toml", "[engine]\nMAX_REVIEWERS = 3\n")]
    ((load env files [] (some "named.toml")).toOption.map (·.engine.maxReviewers)) = some 4 := by
  decide +kernel

/-- **The environment gives way.**  The number of reviewers that a variable gives is taken
    where no file gives one; where a file does, the variable does not count. -/
theorem load_file_first :
    let env := Environment.ofPairs [("REVIEWPOOL_ENGINE__MAX_REVIEWERS", "4")]
    let files := [("named.toml", "[engine]\nmax_reviewers = 3\n")]
    let reviewers (t : Except LoadFailure Settings) := t.toOption.map (·.engine.maxReviewers)
    reviewers (load env [] [] none) = some 4 ∧
      reviewers (load [] files [] (some "named.toml")) = some 3 ∧
      reviewers (load env files [] (some "named.toml")) = some 3 := by
  decide +kernel

end ReviewRota.Settings
