/-
  ReviewRota — tags among values.

  Commands put names and ids among markup of their own: into lines with bold labels, or
  between the tags of a colour.  Values in which no tag begins do no harm there: every
  closing tag is one of the command, and has its style open.

  * `ownStyles` are the styles that commands use, and `Tagging.Lawful` is a console that
    can read and draw these;
  * `Tame` are pieces with such styles only, each of which is open where it ends;
    `Marked.Own` is what a step keeps, and `Tame.run` what a run of them does;
  * `Harmless` is a value in which no tag begins, and `Sound` is markup as commands put it
    together among such values: `Begun.tame` says that its pieces are tame, wherever it is
    cut, and `Begun.neat` that it does no harm.
-/
import ReviewRota.Proofs.Printing

namespace ReviewRota.Console

/-! ## Styles of commands -/

/-- The styles that commands use among values. -/
def ownStyles : List (List Char) := ["bold".toList, "green".toList, "red".toList]

theorem ownStyles_bare : ∀ name ∈ ownStyles, '[' ∉ name ∧ ']' ∉ name ∧ '=' ∉ name := by
  decide +kernel

theorem ownStyles_open : ∀ name ∈ ownStyles,
    name.head?.any opensTag = true ∧ name.head? ≠ some '/' := by decide +kernel

theorem ownStyles_trimmed : ∀ name ∈ ownStyles,
    name.all Text.isBlank = false ∧ Text.trimEnds Text.isBlank name = name := by decide +kernel

/-- The console reads the styles of commands as styles, not as events, and draws them. -/
def Tagging.Lawful (k : Tagging) : Prop :=
  ∀ name ∈ ownStyles, ∃ style, k.normal name = .ok style ∧
    style.toList.head? ≠ some '@' ∧ k.styleFault? style = none

/-- Pieces with no other tags than those of the styles of commands, where the given style, if
    any, is open: every style is closed only where it is open. -/
inductive Tame : Option (List Char) → List Piece → Prop
  | nil {need} : Tame need []
  | text {need cs ps} : Tame need ps → Tame need (.text cs :: ps)
  | opening {need name place ps} : name ∈ ownStyles → Tame (some name) ps →
      Tame need (.tag place (.ofInside name) :: ps)
  | closing {name place ps} : name ∈ ownStyles → Tame none ps →
      Tame (some name) (.tag place (.ofInside ('/' :: name)) :: ps)

/-- The name of a style of a command, as the console has it. -/
def IsOwn (k : Tagging) (style : String) : Prop := ∃ name ∈ ownStyles, k.normal name = .ok style

/-- Only styles of commands were begun so far, and the style that is needed, if any, is open. -/
structure Marked.Own (k : Tagging) (need : Option (List Char)) (m : Marked) : Prop where
  spans : ∀ s ∈ m.spans, IsOwn k s.style
  styles : ∀ o ∈ m.styles, IsOwn k o.style ∧ o.parameters = none
  covers : ∀ name ∈ need, ∃ o ∈ m.styles, k.normal name = .ok o.style

section
variable {k : Tagging} {need : Option (List Char)} {m : Marked} {ps : List Piece}
  {cs name inside : List Char} {place n : Nat} {style s : String}

theorem Tagging.Lawful.own (hk : k.Lawful) (h : IsOwn k style) :
    style.toList.head? ≠ some '@' ∧ k.styleFault? style = none := by
  obtain ⟨name, hname, hstyle⟩ := h
  obtain ⟨style', hstyle', hown⟩ := hk name hname
  obtain rfl := Except.ok.inj (hstyle.symm.trans hstyle')
  exact hown

/-- What stands in a tag without parameters. -/
theorem Tag.ofInside_bare (h : '=' ∉ inside) : Tag.ofInside inside = ⟨inside, none⟩ := by
  have hall : ∀ c ∈ inside, (c != '=') = true := fun c hc => by
    simpa using ne_of_mem_of_not_mem hc h
  have htake : inside.takeWhile (· != '=') = inside := List.takeWhile_eq_self_iff.2 hall
  have hdrop : inside.dropWhile (· != '=') = [] := List.dropWhile_eq_nil_iff.2 hall
  unfold Tag.ofInside
  rw [htake, hdrop]
  rfl

namespace Marked.Own

theorem weaken (h : m.Own k need) : m.Own k none := ⟨h.spans, h.styles, nofun⟩

theorem append (h : m.Own k need) : (m.append cs).Own k need := ⟨h.spans, h.styles, h.covers⟩

/-- The stretch of a style that ends is one of a command. -/
theorem upTo {o : OpenStyle} (h : m.Own k need) (ho : o ∈ m.styles) :
    IsOwn k (o.upTo n).style := by
  obtain ⟨hown, hparameters⟩ := h.styles o ho
  have hstyle : (o.upTo n).style = o.style := by
    unfold OpenStyle.upTo
    rw [hparameters]
    exact String.append_empty
  rwa [hstyle]

/-- A style of a command can be opened. -/
theorem opening (hk : k.Lawful) (hname : name ∈ ownStyles) (h : m.Own k need) :
    ∃ m', m.step k (.tag place (.ofInside name)) = .ok m' ∧ m'.Own k (some name) := by
  obtain ⟨style, hstyle, -⟩ := hk name hname
  obtain ⟨hopen, hslash⟩ := ownStyles_open name hname
  have hstep : m.step k (.tag place (.ofInside name)) = .ok (m.opening style none) := by
    rw [Tag.ofInside_bare (ownStyles_bare name hname).2.2]
    unfold Marked.step
    dsimp only
    split
    next => exact absurd rfl hslash
    next => rw [hstyle]; rfl
  refine ⟨_, hstep, h.spans, List.forall_mem_cons.2 ⟨⟨⟨name, hname, hstyle⟩, rfl⟩, h.styles⟩, ?_⟩
  rintro _ ⟨⟩
  exact ⟨_, List.mem_cons_self, hstyle⟩

/-- A style of a command that is open can be closed. -/
theorem closing (hk : k.Lawful) (hname : name ∈ ownStyles) (h : m.Own k (some name)) :
    ∃ m', m.step k (.tag place (.ofInside ('/' :: name))) = .ok m' ∧ m'.Own k none := by
  obtain ⟨hblank, htrim⟩ := ownStyles_trimmed name hname
  have hbare : '=' ∉ '/' :: name := by simpa using (ownStyles_bare name hname).2.2
  obtain ⟨p, hp, hstyle⟩ := h.covers name rfl
  obtain ⟨o, hfound⟩ : ∃ o, m.styles.find? (·.style = p.style) = some o := by
    rw [← Option.isSome_iff_exists, List.find?_isSome]
    exact ⟨p, hp, by simp⟩
  have ho : o ∈ m.styles := List.mem_of_find?_eq_some hfound
  have hquiet : o.isEvent = false := by
    have hown := (hk.own (h.styles o ho).1).1
    simpa [OpenStyle.isEvent] using hown
  have hstep : m.step k (.tag place (.ofInside ('/' :: name))) = .ok
      { m with styles := m.styles.erase o, spans := o.upTo m.text.length :: m.spans } := by
    rw [Tag.ofInside_bare hbare]
    simp only [Marked.step, Marked.closing, Marked.ending, hblank, htrim, hstyle, hfound, hquiet,
      bind, Except.bind, Bool.false_eq_true, if_false]
  refine ⟨_, hstep, List.forall_mem_cons.2 ⟨h.upTo ho, h.spans⟩, fun o' ho' => ?_, nofun⟩
  exact h.styles o' (List.mem_of_mem_erase ho')

theorem finished (h : m.Own k need) : m.finished.Own k none := by
  refine ⟨fun s hs => ?_, nofun, nofun⟩
  rcases List.mem_append.1 hs with hs | hs
  · obtain ⟨o, ho, rfl⟩ := List.mem_map.1 (List.mem_reverse.1 hs)
    exact h.upTo ho
  · exact h.spans s hs

end Marked.Own

namespace Tame

theorem weaken (h : Tame none ps) : Tame need ps := by
  generalize hneed : none = none' at h
  induction h with
  | nil => exact .nil
  | text _ ih => exact .text (ih hneed)
  | opening hname h => exact .opening hname h
  | closing => cases hneed

theorem stretch (h : Tame need ps) : Tame need (Console.stretch cs ++ ps) := by
  unfold Console.stretch
  split
  · exact h
  · exact .text h

/-- A closing tag behind backslashes has its effect, or is text. -/
theorem behindSlashes (hname : name ∈ ownStyles) (h : Tame none ps) :
    Tame (some name) (Console.behindSlashes n place ('/' :: name) ++ ps) := by
  unfold Console.behindSlashes
  rw [List.append_assoc, List.singleton_append]
  refine .stretch ?_
  split
  · exact .text h.weaken
  · exact .closing hname h

/-- **Tame pieces have their effect**, and leave only styles of commands. -/
theorem run (hk : k.Lawful) (h : Tame need ps) (hm : m.Own k need) :
    ∃ m', ps.foldlM (Marked.step k) m = .ok m' ∧ m'.Own k none := by
  induction h generalizing m with
  | nil => exact ⟨m, rfl, hm.weaken⟩
  | text _ ih => exact ih hm.append
  | opening hname _ ih =>
    obtain ⟨m', hstep, hm'⟩ := hm.opening hk hname
    rw [List.foldlM_cons, hstep]
    exact ih hm'
  | closing hname _ ih =>
    obtain ⟨m', hstep, hm'⟩ := hm.closing hk hname
    rw [List.foldlM_cons, hstep]
    exact ih hm'

/-- **A text of tame pieces does no harm.** -/
theorem neat (hk : k.Lawful) (h : Tame none (pieces s.toList)) : Neat k s := by
  have hbegin : Marked.Own k none {} := ⟨nofun, nofun, nofun⟩
  obtain ⟨m, hrun, hm⟩ := h.run hk hbegin
  refine ⟨m.finished, ?_, fun s hs => (hk.own (hm.finished.spans s hs)).2⟩
  unfold marked
  rw [hrun]
  rfl

end Tame

end

/-! ## Markup among values -/

/-- No tag begins with the text, if it stands behind a bracket. -/
def Blunt (cs : List Char) : Prop := cs.head?.any opensTag = false

instance {cs : List Char} : Decidable (Blunt cs) :=
  inferInstanceAs (Decidable (_ = false))

theorem blunt_nil : Blunt [] := rfl

/-- Markup as commands put it together, from some place on, where the given style, if any, is
    open.  No tag begins in a value.  A style of the command begins with a line, so that no
    backslash can stand before its tag. -/
inductive Sound : Option (List Char) → List Char → Prop
  | nil {need} : Sound need []
  | char {need c cs} : (c = '[' → Blunt cs) → Sound need cs → Sound need (c :: cs)
  | line {need name cs} : name ∈ ownStyles → Sound (some name) cs →
      Sound need ('\n' :: '[' :: (name ++ ']' :: cs))
  | close {name cs} : name ∈ ownStyles → Sound none cs →
      Sound (some name) ('[' :: ('/' :: name ++ ']' :: cs))

/-- Sound markup, or a style of the command and sound markup behind. -/
def Begun (need : Option (List Char)) (cs : List Char) : Prop :=
  Sound need cs ∨
    ∃ name ∈ ownStyles, ∃ rest, cs = '[' :: (name ++ ']' :: rest) ∧ Sound (some name) rest

namespace Sound

variable {need : Option (List Char)} {c : Char} {cs pre : List Char}

/-- Behind a character that is no bracket, the markup goes on. -/
theorem begun (h : Sound need (c :: cs)) (hc : c ≠ '[') : Begun need cs := by
  cases h with
  | char _ h => exact .inl h
  | line hname h => exact .inr ⟨_, hname, _, rfl, h⟩
  | close => exact absurd rfl hc

/-- Only a line break can stand before a style of the command. -/
theorem tail (h : Sound need (c :: cs)) (hc : c ≠ '[') (hline : c ≠ '\n') : Sound need cs := by
  cases h with
  | char _ h => exact h
  | line => exact absurd rfl hline
  | close => exact absurd rfl hc

theorem behind_slashes (hpre : ∀ c ∈ pre, c = '\\') (h : Sound need (pre ++ cs)) :
    Sound need cs := by
  induction pre with
  | nil => exact h
  | cons c pre ih =>
    obtain ⟨rfl, hrest⟩ := List.forall_mem_cons.1 hpre
    exact ih hrest (h.tail (by decide) (by decide))

end Sound

/-! ## How markup is cut -/

section
variable {cs slashes read inside rest : List Char} {c : Char} {n place : Nat}

theorem eq_takeWhile_append {p : Char → Bool} :
    cs = cs.takeWhile p ++ cs.drop (cs.takeWhile p).length :=
  (List.prefix_iff_eq_append.1 (List.takeWhile_prefix p)).symm

/-- The inside of a tag holds no bracket, and begins as a tag does. -/
theorem tagInside?_eq_some : tagInside? cs = some (inside, rest) ↔
    cs = inside ++ ']' :: rest ∧ '[' ∉ inside ∧ ']' ∉ inside ∧
      inside.head?.any opensTag = true := by
  unfold tagInside?
  dsimp only
  constructor
  · intro h
    split at h
    next c tail r hinside hbehind =>
      split at h
      next hopens =>
        obtain ⟨rfl, rfl⟩ := Prod.mk.inj (Option.some.inj h)
        refine ⟨?_, fun hd => ?_, fun hd => ?_, ?_⟩
        · rw [← hbehind]
          exact eq_takeWhile_append
        · simpa using List.mem_takeWhile_imp hd
        · simpa using List.mem_takeWhile_imp hd
        · rw [hinside]
          exact hopens
      next => cases h
    next => cases h
  · rintro ⟨rfl, hopen, hclose, hopens⟩
    have hall : ∀ c ∈ inside, (c != '[' && c != ']') = true := fun c hc => by
      simpa using ⟨ne_of_mem_of_not_mem hc hopen, ne_of_mem_of_not_mem hc hclose⟩
    have htake : (inside ++ ']' :: rest).takeWhile (fun c => c != '[' && c != ']') = inside := by
      rw [List.takeWhile_append_of_pos hall]
      exact List.append_nil inside
    rw [htake, List.drop_left]
    cases inside with
    | nil => cases hopens
    | cons c inside => exact if_pos hopens

/-- Where no tag begins, none is found. -/
theorem Blunt.tagInside? (h : Blunt cs) : tagInside? cs = none := by
  rw [Option.eq_none_iff_forall_ne_some]
  rintro ⟨inside, rest⟩ hin
  obtain ⟨rfl, -, -, hopens⟩ := tagInside?_eq_some.1 hin
  cases inside with
  | nil => cases hopens
  | cons c inside => exact Bool.false_ne_true (h.symm.trans hopens)

/-- A text is some backslashes and what is behind them. -/
theorem exists_slashes (cs : List Char) : ∃ slashes tail, cs = slashes ++ tail ∧
    (∀ c ∈ slashes, c = '\\') ∧ tail.head? ≠ some '\\' := by
  induction cs with
  | nil => exact ⟨[], [], rfl, nofun, nofun⟩
  | cons c cs ih =>
    by_cases hc : c = '\\'
    · obtain ⟨slashes, tail, rfl, hslashes, htail⟩ := ih
      exact ⟨c :: slashes, tail, rfl, List.forall_mem_cons.2 ⟨hc, hslashes⟩, htail⟩
    · exact ⟨[], c :: cs, rfl, nofun, by simpa using hc⟩

theorem takeWhile_slashes (hs : ∀ c ∈ slashes, c = '\\') (hcs : cs.head? ≠ some '\\') :
    (slashes ++ cs).takeWhile (· == '\\') = slashes := by
  have hall : ∀ c ∈ slashes, (c == '\\') = true := fun c hc => by simpa using hs c hc
  have hnone : cs.takeWhile (· == '\\') = [] := by
    cases cs with
    | nil => rfl
    | cons c cs => simpa using hcs
  rw [List.takeWhile_append_of_pos hall, hnone, List.append_nil]

theorem piecesFrom_end (hs : ∀ c ∈ slashes, c = '\\') :
    piecesFrom (n + 1) place read slashes = stretch (slashes ++ read) := by
  have htake : (slashes ++ []).takeWhile (· == '\\') = slashes := takeWhile_slashes hs nofun
  rw [List.append_nil] at htake
  simp [piecesFrom, htake]

theorem piecesFrom_char (hs : ∀ c ∈ slashes, c = '\\') (hslash : c ≠ '\\') (hc : c ≠ '[') :
    piecesFrom (n + 1) place read (slashes ++ c :: cs) =
      piecesFrom n (place + slashes.length + 1) (c :: (slashes ++ read)) cs := by
  have htake : (slashes ++ c :: cs).takeWhile (· == '\\') = slashes :=
    takeWhile_slashes hs (by simpa using hslash)
  rw [piecesFrom, htake, List.drop_left]
  split
  next h => cases h
  next h => exact absurd (List.cons.inj h).1 hc
  next h =>
    obtain ⟨rfl, rfl⟩ := List.cons.inj h
    rfl

theorem piecesFrom_bracket (hs : ∀ c ∈ slashes, c = '\\') (hcs : tagInside? cs = none) :
    piecesFrom (n + 1) place read (slashes ++ '[' :: cs) =
      piecesFrom n (place + slashes.length + 1) ('[' :: (slashes ++ read)) cs := by
  have htake : (slashes ++ '[' :: cs).takeWhile (· == '\\') = slashes :=
    takeWhile_slashes hs (by simp)
  simp [piecesFrom, htake, hcs]

theorem piecesFrom_tag (hs : ∀ c ∈ slashes, c = '\\') (hcs : tagInside? cs = some (inside, rest)) :
    piecesFrom (n + 1) place read (slashes ++ '[' :: cs) =
      stretch read ++ (behindSlashes slashes.length place inside ++
        piecesFrom n (place + slashes.length + inside.length + 2) [] rest) := by
  have htake : (slashes ++ '[' :: cs).takeWhile (· == '\\') = slashes :=
    takeWhile_slashes hs (by simp)
  simp [piecesFrom, htake, hcs]

end

section
variable {k : Tagging} {need : Option (List Char)} {cs read name rest : List Char} {n place : Nat}
  {s : String}

theorem tagInside?_own (h : name ∈ ownStyles) :
    tagInside? (name ++ ']' :: rest) = some (name, rest) :=
  tagInside?_eq_some.2 ⟨rfl, (ownStyles_bare name h).1, (ownStyles_bare name h).2.1,
    (ownStyles_open name h).1⟩

theorem tagInside?_close (h : name ∈ ownStyles) :
    tagInside? ('/' :: name ++ ']' :: rest) = some ('/' :: name, rest) := by
  obtain ⟨hopen, hclose, -⟩ := ownStyles_bare name h
  exact tagInside?_eq_some.2 ⟨rfl, by simpa using hopen, by simpa using hclose, rfl⟩

/-- The pieces of sound markup are tame, wherever the cut of it stands.  The induction is on the
    bound of the pieces: a tag is cut as a whole. -/
theorem Begun.tame (h : Begun need cs) (hn : cs.length < n) :
    Tame need (piecesFrom n place read cs) := by
  induction n generalizing need cs read place with
  | zero => cases hn
  | succ n ih =>
    rcases h with h | ⟨name, hname, rest, rfl, h⟩
    · obtain ⟨slashes, tail, rfl, hs, htail⟩ := exists_slashes cs
      replace h := h.behind_slashes hs
      rw [List.length_append] at hn
      cases tail with
      | nil =>
        rw [List.append_nil, piecesFrom_end hs, ← List.append_nil (stretch _)]
        exact Tame.nil.stretch
      | cons c cs =>
        rw [List.length_cons] at hn
        by_cases hc : c = '['
        · subst hc
          cases h with
          | char hblunt h =>
            rw [piecesFrom_bracket hs (hblunt rfl).tagInside?]
            exact ih (.inl h) (by omega)
          | close hname h =>
            rw [piecesFrom_tag hs (tagInside?_close hname)]
            simp only [List.length_append, List.length_cons] at hn
            exact .stretch (.behindSlashes hname (ih (.inl h) (by omega)))
        · have hslash : c ≠ '\\' := by simpa using htail
          rw [piecesFrom_char hs hslash hc]
          exact ih (h.begun hc) (by omega)
    · have hnone : ∀ c ∈ ([] : List Char), c = '\\' := nofun
      have hcut : piecesFrom (n + 1) place read ('[' :: (name ++ ']' :: rest)) = _ :=
        piecesFrom_tag hnone (tagInside?_own hname)
      simp only [List.length_cons, List.length_append] at hn
      rw [hcut]
      exact .stretch (.opening hname (ih (.inl h) (by omega)))

/-- **Sound markup does no harm.** -/
theorem Begun.neat (hk : k.Lawful) (h : Begun none s.toList) : Neat k s :=
  (h.tame (Nat.lt_succ_self _)).neat hk

end

/-! ## Values -/

/-- No tag begins in the value. -/
def Harmless (s : String) : Prop := s.toList.IsChain fun c d => c = '[' → opensTag d = false

instance {s : String} : Decidable (Harmless s) :=
  inferInstanceAs (Decidable (s.toList.IsChain fun c d => c = '[' → opensTag d = false))

section
variable {k : Tagging} {need : Option (List Char)} {v w : String} {rest : List Char}

theorem harmless_of_bare (h : '[' ∉ v.toList) : Harmless v := by
  unfold Harmless
  generalize v.toList = cs at h
  induction cs with
  | nil => exact .nil
  | cons c cs ih =>
    obtain ⟨hc, hcs⟩ := not_or.1 (mt List.mem_cons.2 h)
    exact List.isChain_cons.2 ⟨fun _ _ h => absurd h.symm hc, ih hcs⟩

/-- Values side by side are harmless unless the first ends with a bracket and a tag begins with
    the second. -/
theorem Harmless.append (hv : Harmless v) (hw : Harmless w)
    (h : '[' ∉ v.toList ∨ Blunt w.toList) : Harmless (v ++ w) := by
  unfold Harmless
  rw [String.toList_append, List.isChain_append]
  refine ⟨hv, hw, fun c hc d hd hbracket => ?_⟩
  rcases h with h | h
  · exact absurd (hbracket ▸ List.mem_of_getLast? hc) h
  · rwa [Blunt, Option.mem_def.1 hd] at h

/-- Values in a row are harmless if what separates them holds no bracket and begins no tag. -/
theorem Harmless.intercalate {sep : String} {vs : List String} (hvs : ∀ v ∈ vs, Harmless v)
    (hsep : '[' ∉ sep.toList) (hblunt : Blunt sep.toList) (hne : sep ≠ "") :
    Harmless (sep.intercalate vs) := by
  induction vs with
  | nil => exact harmless_of_bare (by simp)
  | cons v vs ih =>
    obtain ⟨hv, hvs⟩ := List.forall_mem_cons.1 hvs
    cases vs with
    | nil =>
      have hone : sep.intercalate [v] = v := by simp
      rwa [hone]
    | cons w vs =>
      have hcons : sep.intercalate (v :: w :: vs) = v ++ (sep ++ sep.intercalate (w :: vs)) := by
        simp [← String.toList_inj]
      have hhead : Blunt (sep ++ sep.intercalate (w :: vs)).toList := by
        unfold Blunt
        rw [String.toList_append, List.head?_append_of_ne_nil _ (mt String.toList_eq_nil_iff.1 hne)]
        exact hblunt
      rw [hcons]
      exact hv.append ((harmless_of_bare hsep).append (ih hvs) (.inl hsep)) (.inr hhead)

/-- A harmless value may stand in front of sound markup. -/
theorem Sound.value (hv : Harmless v) (hrest : Blunt rest) (h : Sound need rest) :
    Sound need (v.toList ++ rest) := by
  unfold Harmless at hv
  generalize v.toList = cs at hv
  induction cs with
  | nil => exact h
  | cons c cs ih =>
    obtain ⟨hc, hcs⟩ := List.isChain_cons.1 hv
    refine .char (fun hbracket => ?_) (ih hcs)
    cases cs with
    | nil => exact hrest
    | cons d cs => exact hc d rfl hbracket

theorem Sound.of_value (hv : Harmless v) : Sound need v.toList := by
  rw [← List.append_nil v.toList]
  exact .value hv blunt_nil .nil

/-- **A harmless value does no harm on its own.** -/
theorem Harmless.neat (hk : k.Lawful) (hv : Harmless v) : Neat k v :=
  Begun.neat hk (.inl (.of_value hv))

example : Harmless "[WIP] a[1] [ b ]" ∧ ¬ Harmless "[b]a" ∧ ¬ Harmless "[/x]" := by decide

end

end ReviewRota.Console
