/-
  ReviewRota — the entries of the sections.

  What a section reads, entry by entry: the name, the default and the values that are
  taken.  An entry is read from what stands under its name, whatever the other entries
  are; a section is read once all of its entries are.  A file and the environment can
  give it more than that, or something that it does not take; what they give is valid if
  they do not.

  * `Entry` and `Entry.settle`: an entry of a section, and what comes of it if a value
    is given or none;
  * `databaseEntries` and its like: the entries of the four sections;
  * `Section.Reads`: what the section reads are these entries;
  * `Section.told?` and `Section.inFile`: what the environment gives for an entry, and
    what the file gives for a section;
  * `Section.Valid`: all that both give for the section are entries with values that
    these take.
-/
import ReviewRota.Proofs.Tables
import ReviewRota.Settings.Environment

namespace ReviewRota

theorem Text.sameLetters_self (n : String) : sameLetters n n := beq_self_eq_true _

theorem Text.sameLetters_of {k n m : String} (hn : sameLetters k n) (hm : sameLetters k m) :
    sameLetters n m := by
  unfold sameLetters at *
  simp only [beq_iff_eq] at *
  exact hn.symm.trans hm

/-- The first entry of a name, in any case. -/
def Fields.inAnyCase? (fs : Fields) (n : String) : Option Datum :=
  (fs.find? fun f => Text.sameLetters f.1 n).map Prod.snd

theorem Fields.mem_of_inAnyCase? {fs : Fields} {n : String} {d : Datum}
    (h : fs.inAnyCase? n = some d) : ∃ k, (k, d) ∈ fs ∧ Text.sameLetters k n := by
  obtain ⟨⟨k, d⟩, hf, rfl⟩ := Option.map_eq_some_iff.1 h
  exact ⟨k, List.mem_of_find?_eq_some hf, by simpa using List.find?_some hf⟩

/-- The value is a table. -/
def Datum.isTable : Datum → Bool
  | .table _ => true
  | _ => false

theorem Datum.overWithin_of_isTable {new old : Datum} {depth : Nat} (h : old.isTable = false) :
    new.overWithin depth old = new := by
  cases old with
  | table t => cases h
  | _ => cases new <;> rfl

/-- The reading gives a value. -/
def Reading.isValue {α : Type} : Reading α → Bool
  | .value _ => true
  | .flawed _ => false

theorem Reading.isValue_iff {α : Type} {r : Reading α} : r.isValue ↔ ∃ a, r = .value a := by
  cases r <;> simp [isValue]

namespace Settings

variable {α : Type} {fs : Fields}

/-! ## Entries -/

/-- An entry of a section: the name, the value in its place if none is given, how a
    value is read, and where it is in the section. -/
structure Entry (α : Type) where
  Value : Type
  name : String
  default : Value
  read : Datum → Reading Value
  value : α → Value

/-- What comes of an entry for which a value is given, or none. -/
def Entry.settle (e : Entry α) : Option Datum → Reading e.Value
  | some d => e.read d
  | none => .value e.default

/-- The value is one for the entry. -/
def Entry.takes (e : Entry α) (d : Datum) : Bool := (e.read d).isValue

theorem Entry.readOr_eq (e : Entry α) {b : e.Value} (h : e.settle (fs.get? e.name) = .value b) :
    fs.readOr e.name e.default e.read = .value b := by
  unfold Fields.readOr
  cases hd : fs.get? e.name with
  | none =>
    rw [hd] at h
    exact h
  | some d =>
    rw [hd] at h
    show (e.read d).under e.name = _
    rw [show e.read d = .value b from h]
    rfl

/-- The entries of the section for the database. -/
def databaseEntries : List (Entry Database) :=
  [⟨_, "url", ({} : Database).url, .text, Database.url⟩,
    ⟨_, "pool_size", 10, .integerIn 1 100, Database.poolSize⟩,
    ⟨_, "max_overflow", 10, .integerIn 0 100, Database.maxOverflow⟩,
    ⟨_, "echo", false, .flag, Database.echo⟩]

/-- The entries of the section for the log. -/
def loggingEntries : List (Entry Logging) :=
  [⟨_, "level", .info, Settings.level, Logging.level⟩,
    ⟨_, "format", .json, Settings.format, Logging.format⟩,
    ⟨_, "file", none, .optional path, Logging.file⟩,
    ⟨_, "rotation_size_mb", 50, .integerIn 1 1000, Logging.rotationMegabytes⟩,
    ⟨_, "retention_count", 10, .integerIn 1 100, Logging.retention⟩]

/-- The entries of the section for the desk. -/
def engineEntries : List (Entry Engine) :=
  [⟨_, "operation_timeout_seconds", .ofNat 3, timeout, Engine.timeoutSeconds⟩,
    ⟨_, "max_reviewers", 2, .integerIn 1 10, Engine.maxReviewers⟩,
    ⟨_, "default_stats_limit", 10, .integerIn 1 1000, Engine.defaultLimit⟩]

/-- The entries of the section for the web application. -/
def webEntries : List (Entry Web) :=
  [⟨_, "host", ({} : Web).host, .text, Web.host⟩,
    ⟨_, "port", 8080, .integerIn 1 65535, Web.port⟩,
    ⟨_, "cors_origins", ({} : Web).corsOrigins, .listOf .text, Web.corsOrigins⟩]

/-! ## Sections -/

/-- The names of the entries are apart in every case, none is a directive, and none is
    taken for a path of several steps. -/
structure Section.Spelt (s : Section α) : Prop where
  nodup : s.entries.Nodup
  letters : ∀ n ∈ s.entries, ∀ m ∈ s.entries, Text.sameLetters n m → n = m
  directives : ∀ n ∈ s.entries, ∀ d ∈ directives, ¬ Text.sameLetters d n
  steps : ∀ n ∈ s.entries, steps n.toList = [n.toList]

instance {s : Section α} : Decidable s.Spelt :=
  decidable_of_iff (s.entries.Nodup ∧
    (∀ n ∈ s.entries, ∀ m ∈ s.entries, Text.sameLetters n m → n = m) ∧
    (∀ n ∈ s.entries, ∀ d ∈ directives, ¬ Text.sameLetters d n) ∧
    ∀ n ∈ s.entries, Settings.steps n.toList = [n.toList])
    ⟨fun ⟨h₁, h₂, h₃, h₄⟩ => ⟨h₁, h₂, h₃, h₄⟩, fun ⟨h₁, h₂, h₃, h₄⟩ => ⟨h₁, h₂, h₃, h₄⟩⟩

/-- The section reads these entries. -/
structure Section.Reads (s : Section α) (es : List (Entry α)) : Prop where
  /-- The section is read once its entries are, each by itself. -/
  known : ∀ fs : Fields, (∀ e ∈ es, (e.settle (fs.get? e.name)).isValue) →
    ∃ a, s.known fs = .value a ∧ ∀ e ∈ es, e.settle (fs.get? e.name) = .value (e.value a)
  /-- No entry takes a table, and none that is a list takes nothing. -/
  tables : ∀ e ∈ es, ∀ fs, e.takes (.table fs) = false
  nulls : ∀ e ∈ es, s.lists.contains e.name → e.takes .null = false
  entries : s.entries = es.map Entry.name
  spelt : s.Spelt

theorem databaseSection_reads : databaseSection.Reads databaseEntries where
  known fs h := by
    simp only [databaseEntries, List.forall_mem_cons, Reading.isValue_iff] at h
    obtain ⟨⟨url, h₁⟩, ⟨poolSize, h₂⟩, ⟨maxOverflow, h₃⟩, ⟨echo, h₄⟩, -⟩ := h
    refine ⟨⟨url, poolSize, maxOverflow, echo⟩, ?_, ?_⟩
    · show Database.readKnown fs = _
      unfold Database.readKnown
      rw [Entry.readOr_eq _ h₁, Entry.readOr_eq _ h₂, Entry.readOr_eq _ h₃, Entry.readOr_eq _ h₄]
      rfl
    · simp only [databaseEntries, List.forall_mem_cons]
      exact ⟨h₁, h₂, h₃, h₄, nofun⟩
  tables := by
    simp only [databaseEntries, List.forall_mem_cons]
    exact ⟨fun _ => rfl, fun _ => rfl, fun _ => rfl, fun _ => rfl, nofun⟩
  entries := rfl
  spelt := by decide +kernel
  nulls := by decide +kernel

theorem loggingSection_reads : loggingSection.Reads loggingEntries where
  known fs h := by
    simp only [loggingEntries, List.forall_mem_cons, Reading.isValue_iff] at h
    obtain ⟨⟨level, h₁⟩, ⟨format, h₂⟩, ⟨file, h₃⟩, ⟨rotation, h₄⟩, ⟨retention, h₅⟩, -⟩ := h
    refine ⟨⟨level, format, file, rotation, retention⟩, ?_, ?_⟩
    · show Logging.readKnown fs = _
      unfold Logging.readKnown
      rw [Entry.readOr_eq _ h₁, Entry.readOr_eq _ h₂, Entry.readOr_eq _ h₃, Entry.readOr_eq _ h₄,
        Entry.readOr_eq _ h₅]
      rfl
    · simp only [loggingEntries, List.forall_mem_cons]
      exact ⟨h₁, h₂, h₃, h₄, h₅, nofun⟩
  tables := by
    simp only [loggingEntries, List.forall_mem_cons]
    exact ⟨fun _ => rfl, fun _ => rfl, fun _ => rfl, fun _ => rfl, fun _ => rfl, nofun⟩
  entries := rfl
  spelt := by decide +kernel
  nulls := by decide +kernel

theorem engineSection_reads : engineSection.Reads engineEntries where
  known fs h := by
    simp only [engineEntries, List.forall_mem_cons, Reading.isValue_iff] at h
    obtain ⟨⟨timeout, h₁⟩, ⟨maxReviewers, h₂⟩, ⟨defaultLimit, h₃⟩, -⟩ := h
    refine ⟨⟨timeout, maxReviewers, defaultLimit⟩, ?_, ?_⟩
    · show Engine.readKnown fs = _
      unfold Engine.readKnown
      rw [Entry.readOr_eq _ h₁, Entry.readOr_eq _ h₂, Entry.readOr_eq _ h₃]
      rfl
    · simp only [engineEntries, List.forall_mem_cons]
      exact ⟨h₁, h₂, h₃, nofun⟩
  tables := by
    simp only [engineEntries, List.forall_mem_cons]
    exact ⟨fun _ => rfl, fun _ => rfl, fun _ => rfl, nofun⟩
  entries := rfl
  spelt := by decide +kernel
  nulls := by decide +kernel

theorem webSection_reads : webSection.Reads webEntries where
  known fs h := by
    simp only [webEntries, List.forall_mem_cons, Reading.isValue_iff] at h
    obtain ⟨⟨host, h₁⟩, ⟨port, h₂⟩, ⟨corsOrigins, h₃⟩, -⟩ := h
    refine ⟨⟨host, port, corsOrigins⟩, ?_, ?_⟩
    · show Web.readKnown fs = _
      unfold Web.readKnown
      rw [Entry.readOr_eq _ h₁, Entry.readOr_eq _ h₂, Entry.readOr_eq _ h₃]
      rfl
    · simp only [webEntries, List.forall_mem_cons]
      exact ⟨h₁, h₂, h₃, nofun⟩
  tables := by
    simp only [webEntries, List.forall_mem_cons]
    exact ⟨fun _ => rfl, fun _ => rfl, fun _ => rfl, nofun⟩
  entries := rfl
  spelt := by decide +kernel
  nulls := by decide +kernel

/-! ## What is given -/

/-- What the text of a variable stands for: JSON for an entry that is a list, and
    otherwise the text. -/
def Section.worth? (s : Section α) (entry v : String) : Option Datum :=
  if s.lists.contains entry then (Json.parse v).toOption else some (.text v)

/-- What the environment gives for an entry. -/
def Section.told? (s : Section α) (env : Environment) (entry : String) : Option Datum :=
  (env.get? (s.beginning variableRoot ++ entry)).bind (s.worth? entry)

/-- What the file gives for the section. -/
def Section.inFile (s : Section α) (fs : Fields) : Fields :=
  match fs.inAnyCase? s.name with
  | some (.table t) => t
  | _ => []

variable {s : Section α} {es : List (Entry α)} {e e' : Entry α} {env : Environment} {n : String}
  {d : Datum}

/-- All that the file and the environment give for the section are entries, with values
    that these take. -/
structure Section.Valid (s : Section α) (es : List (Entry α)) (env : Environment) (fs : Fields) :
    Prop where
  file : ∀ f ∈ fs, Text.sameLetters f.1 s.name → f.2.isTable ∧
    ∀ g ∈ f.2.fields, ∃ e ∈ es, Text.sameLetters g.1 e.name ∧ e.takes g.2
  /-- No variable gives the section as a whole. -/
  whole : ∀ v ∈ env, v.1 ≠ variableRoot ++ s.name
  single : ∀ v ∈ env, (s.beginning variableRoot).toList.isPrefixOf v.1.toList →
    ∃ e ∈ es, v.1 = s.beginning variableRoot ++ e.name ∧ (s.worth? e.name v.2).any e.takes

instance : Decidable (s.Valid es env fs) :=
  decidable_of_iff ((∀ f ∈ fs, Text.sameLetters f.1 s.name → f.2.isTable ∧
      ∀ g ∈ f.2.fields, ∃ e ∈ es, Text.sameLetters g.1 e.name ∧ e.takes g.2) ∧
    (∀ v ∈ env, v.1 ≠ variableRoot ++ s.name) ∧
    ∀ v ∈ env, (s.beginning variableRoot).toList.isPrefixOf v.1.toList →
      ∃ e ∈ es, v.1 = s.beginning variableRoot ++ e.name ∧ (s.worth? e.name v.2).any e.takes)
    ⟨fun ⟨h₁, h₂, h₃⟩ => ⟨h₁, h₂, h₃⟩, fun ⟨h₁, h₂, h₃⟩ => ⟨h₁, h₂, h₃⟩⟩

theorem Section.Valid.inFile_takes (hv : s.Valid es env fs) {g : String × Datum}
    (hg : g ∈ s.inFile fs) : ∃ e ∈ es, Text.sameLetters g.1 e.name ∧ e.takes g.2 := by
  unfold Section.inFile at hg
  split at hg
  next t ht =>
    obtain ⟨k, hk, hsame⟩ := Fields.mem_of_inAnyCase? ht
    exact (hv.file _ hk hsame).2 g hg
  next => cases hg

namespace Section.Reads

variable (hr : s.Reads es)
include hr

theorem name_mem (he : e ∈ es) : e.name ∈ s.entries :=
  hr.entries ▸ List.mem_map_of_mem he

theorem exists_entry (hn : n ∈ s.entries) : ∃ e ∈ es, e.name = n :=
  List.mem_map.1 (hr.entries ▸ hn)

theorem eq_of_name (he : e ∈ es) (he' : e' ∈ es) (h : e.name = e'.name) : e = e' :=
  List.inj_on_of_nodup_map (hr.entries ▸ hr.spelt.nodup) he he' h

/-- Entries whose names differ at most in case are the same. -/
theorem eq_of_letters (he : e ∈ es) (he' : e' ∈ es) (h : Text.sameLetters e.name e'.name) :
    e = e' :=
  hr.eq_of_name he he' (hr.spelt.letters _ (hr.name_mem he) _ (hr.name_mem he') h)

theorem not_isTable (he : e ∈ es) (h : e.takes d) : d.isTable = false := by
  cases d with
  | table t =>
    rw [hr.tables e he t] at h
    cases h
  | _ => rfl

end Section.Reads

end Settings

end ReviewRota
