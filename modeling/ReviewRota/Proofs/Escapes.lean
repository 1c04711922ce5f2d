/-
  ReviewRota — texts in targets.

  A text is written into the path of a target with every byte escaped that is not one of an
  unreserved character.  What is read from the target is the text again, with two
  exceptions: the texts `.` and `..` need no escape, and are taken for steps of the path.

  * `Text.decodeUtf8_utf8Bytes`: what is written in UTF-8 is read as it was;
  * `Http.percentDecode_append`: so it is with escapes, after a text that has none;
  * `Http.Target.ofText_step`: so it is in a path, where the text stands as the last step.
-/
import ReviewRota.Proofs.Forms

namespace ReviewRota

/-! ## UTF-8 -/

namespace Text

variable {halves : Bool} {bs : List UInt8} {v b m low high : Nat}

theorem Point.ofNat_toNat (c : Char) : Point.ofNat c.toNat = .char c := by
  have hvalid : c.toNat.isValidChar := c.valid
  rw [Point.ofNat, if_pos hvalid, Char.ofNat_toNat]

theorem Utf8.step_last (hl : low ≤ b) (hh : b ≤ high) :
    step halves b (some ⟨v, 1, low, high⟩) = ([some (.ofNat (v * 64 + (b - 0x80)))], none) := by
  simp [step, hl, hh]

theorem Utf8.step_more (hl : low ≤ b) (hh : b ≤ high) :
    step halves b (some ⟨v, m + 2, low, high⟩) =
      ([], some ⟨v * 64 + (b - 0x80), m + 1, 0x80, 0xBF⟩) := by
  simp [step, hl, hh]

theorem Utf8.start_lead {p : Utf8.Partial} (hb : 0x80 ≤ b) (h : lead halves b = some p) :
    step halves b none = ([], some p) := by
  simp [step, start, h, Nat.not_lt.2 hb]

theorem Utf8.lead_two (hl : 2 ≤ v) (hh : v < 32) :
    lead halves (0xC0 + v) = some ⟨v, 1, 0x80, 0xBF⟩ := by
  rw [lead, if_pos (by omega), Nat.add_sub_cancel_left]

/-- The first byte of three bounds the second one so that no form is overlong, and none is
    half of a pair. -/
theorem Utf8.lead_three {w : Nat} (hv : v < 16) (hw : w < 64) (hlong : 0x20 ≤ v * 64 + w)
    (hhalf : v * 64 + w < 0x360 ∨ 0x380 ≤ v * 64 + w) : ∃ low high,
    lead halves (0xE0 + v) = some ⟨v, 2, low, high⟩ ∧ low ≤ 0x80 + w ∧ 0x80 + w ≤ high := by
  unfold lead
  rw [if_neg (by omega)]
  by_cases hzero : v = 0
  · subst hzero
    exact ⟨0xA0, 0xBF, rfl, by omega, by omega⟩
  · rw [if_neg (by omega)]
    by_cases hhalves : v = 0xD
    · subst hhalves
      refine ⟨_, _, rfl, by omega, ?_⟩
      split <;> omega
    · rw [if_neg (by omega), if_pos (by omega), Nat.add_sub_cancel_left]
      exact ⟨_, _, rfl, by omega, by omega⟩

/-- The first byte of four bounds the second one so that the value is one of a character. -/
theorem Utf8.lead_four {w : Nat} (hw : w < 64) (hlong : 0x10 ≤ v * 64 + w)
    (hmost : v * 64 + w < 0x110) : ∃ low high,
    lead halves (0xF0 + v) = some ⟨v, 3, low, high⟩ ∧ low ≤ 0x80 + w ∧ 0x80 + w ≤ high := by
  unfold lead
  rw [if_neg (by omega), if_neg (by omega), if_neg (by omega), if_neg (by omega)]
  by_cases hzero : v = 0
  · subst hzero
    exact ⟨0x90, 0xBF, rfl, by omega, by omega⟩
  · rw [if_neg (by omega)]
    by_cases hfour : v = 4
    · subst hfour
      exact ⟨0x80, 0x8F, rfl, by omega, by omega⟩
    · rw [if_pos (by omega), Nat.add_sub_cancel_left]
      exact ⟨_, _, rfl, by omega, by omega⟩

theorem toNat_toUInt8 {n : Nat} (h : n < 256) : n.toUInt8.toNat = n := by
  simp [Nat.mod_eq_of_lt h]

theorem toNat_tail {n k : Nat} : (0x80 + (n >>> (6 * k)) % 64).toUInt8.toNat =
    0x80 + n / 64 ^ k % 64 := by
  rw [toNat_toUInt8 (by omega), Nat.shiftRight_eq_div_pow, Nat.pow_mul]

theorem Utf8.decodeFrom_cons {p : Option Utf8.Partial} {b : UInt8} :
    decodeFrom halves p (b :: bs) =
      (step halves b.toNat p).1 ++ decodeFrom halves (step halves b.toNat p).2 bs := by
  cases p <;> rfl

/-- **A character is read as it was written.** -/
theorem decodeFrom_encodeUtf8 (c : Char) :
    Utf8.decodeFrom halves none (encodeUtf8 c ++ bs) =
      some (.char c) :: Utf8.decodeFrom halves none bs := by
  have hvalid : c.toNat < 0xD800 ∨ 0xDFFF < c.toNat ∧ c.toNat < 0x110000 := c.valid
  rw [← Point.ofNat_toNat]
  unfold encodeUtf8
  dsimp only
  generalize c.toNat = n at hvalid ⊢
  by_cases hone : n < 0x80
  · rw [if_pos hone, List.cons_append, List.nil_append, Utf8.decodeFrom_cons,
      toNat_toUInt8 (by omega)]
    simp [Utf8.step, Utf8.start, hone]
  rw [if_neg hone]
  by_cases htwo : n < 0x800
  · rw [if_pos htwo, List.cons_append, List.cons_append, List.nil_append, Utf8.decodeFrom_cons,
      toNat_toUInt8 (by omega),
      Utf8.start_lead (by omega) (Utf8.lead_two (by omega) (by omega)), Utf8.decodeFrom_cons,
      toNat_tail, Utf8.step_last (by omega) (by omega)]
    have hvalue : n / 64 * 64 + (0x80 + n / 64 ^ 0 % 64 - 0x80) = n := by omega
    rw [hvalue]
    rfl
  rw [if_neg htwo]
  by_cases hthree : n < 0x10000
  · obtain ⟨low, high, hlead, hlow, hhigh⟩ : ∃ low high,
        Utf8.lead halves (0xE0 + n / 4096) = some ⟨n / 4096, 2, low, high⟩ ∧
        low ≤ 0x80 + n / 64 ^ 1 % 64 ∧ 0x80 + n / 64 ^ 1 % 64 ≤ high :=
      Utf8.lead_three (by omega) (by omega) (by omega) (by omega)
    rw [if_pos hthree, List.cons_append, List.cons_append, List.cons_append, List.nil_append,
      Utf8.decodeFrom_cons, toNat_toUInt8 (by omega), Utf8.start_lead (by omega) hlead,
      Utf8.decodeFrom_cons, toNat_tail, Utf8.step_more hlow hhigh, Utf8.decodeFrom_cons, toNat_tail,
      Utf8.step_last (by omega) (by omega)]
    have hvalue : (n / 4096 * 64 + (0x80 + n / 64 ^ 1 % 64 - 0x80)) * 64 +
        (0x80 + n / 64 ^ 0 % 64 - 0x80) = n := by omega
    rw [hvalue]
    rfl
  · obtain ⟨low, high, hlead, hlow, hhigh⟩ : ∃ low high,
        Utf8.lead halves (0xF0 + n / 262144) = some ⟨n / 262144, 3, low, high⟩ ∧
        low ≤ 0x80 + n / 64 ^ 2 % 64 ∧ 0x80 + n / 64 ^ 2 % 64 ≤ high :=
      Utf8.lead_four (by omega) (by omega) (by omega)
    rw [if_neg hthree, List.cons_append, List.cons_append, List.cons_append, List.cons_append,
      List.nil_append, Utf8.decodeFrom_cons, toNat_toUInt8 (by omega),
      Utf8.start_lead (by omega) hlead, Utf8.decodeFrom_cons, toNat_tail,
      Utf8.step_more hlow hhigh, Utf8.decodeFrom_cons, toNat_tail,
      Utf8.step_more (by omega) (by omega), Utf8.decodeFrom_cons, toNat_tail,
      Utf8.step_last (by omega) (by omega)]
    have hvalue : ((n / 262144 * 64 + (0x80 + n / 64 ^ 2 % 64 - 0x80)) * 64 +
        (0x80 + n / 64 ^ 1 % 64 - 0x80)) * 64 + (0x80 + n / 64 ^ 0 % 64 - 0x80) = n := by omega
    rw [hvalue]
    rfl

/-- **What is written in UTF-8 is read as it was.** -/
theorem decodeUtf8_utf8Bytes (s : String) :
    decodeUtf8 halves (utf8Bytes s) = s.toList.map fun c => some (.char c) := by
  unfold decodeUtf8 utf8Bytes
  induction s.toList with
  | nil => rfl
  | cons c cs ih => rw [List.flatMap_cons, decodeFrom_encodeUtf8, ih, List.map_cons]

theorem utf8Lenient_utf8Bytes (s : String) : utf8Lenient (utf8Bytes s) = s := by
  rw [utf8Lenient, decodeUtf8_utf8Bytes, List.map_map]
  exact (congrArg String.ofList (List.map_id' s.toList)).trans String.ofList_toList

theorem utf8Bytes_append (s t : String) : utf8Bytes (s ++ t) = utf8Bytes s ++ utf8Bytes t := by
  rw [utf8Bytes, String.toList_append, List.flatMap_append]
  rfl

end Text

/-! ## Percent escapes -/

namespace Http

variable {cs : List Char} {c : Char} {safe : List Char}

theorem hexDigit?_capital : ∀ n < 16, Json.hexDigit? (capitalHexDigit n) = some n := by decide

theorem escapedBytes_plain (h : c ≠ '%') :
    escapedBytes (c :: cs) = Text.encodeUtf8 c ++ escapedBytes cs := by
  rw [escapedBytes.eq_def]
  dsimp only
  split
  next => exact absurd rfl h
  next => rfl

/-- **A byte is read as it was escaped.** -/
theorem escapedBytes_escape {b : UInt8} :
    escapedBytes (escapeByte b ++ cs) = b :: escapedBytes cs := by
  have hb : b.toNat < 256 := b.toNat_lt
  have hvalue : 16 * (b.toNat / 16) + b.toNat % 16 = b.toNat := by omega
  simp only [escapeByte, List.cons_append, List.nil_append, escapedBytes,
    hexDigit?_capital _ (show b.toNat / 16 < 16 by omega),
    hexDigit?_capital _ (show b.toNat % 16 < 16 by omega), hvalue]
  simp

theorem escapedBytes_plains (h : '%' ∉ cs) (rest : List Char) :
    escapedBytes (cs ++ rest) = cs.flatMap Text.encodeUtf8 ++ escapedBytes rest := by
  induction cs with
  | nil => rfl
  | cons c cs ih =>
    simp only [List.mem_cons, not_or] at h
    obtain ⟨hc, hcs⟩ := h
    rw [List.cons_append, escapedBytes_plain (Ne.symm hc), ih hcs, List.flatMap_cons,
      List.append_assoc]

theorem escapedBytes_escapes {bs : List UInt8} (rest : List Char) :
    escapedBytes (bs.flatMap escapeByte ++ rest) = bs ++ escapedBytes rest := by
  induction bs with
  | nil => rfl
  | cons b bs ih =>
    rw [List.flatMap_cons, List.append_assoc, escapedBytes_escape, ih]
    rfl

/-- **The bytes of a text are read as they were escaped.** -/
theorem escapedBytes_percentEncode (hsafe : '%' ∉ safe) (s : String) :
    escapedBytes (percentEncode safe s).toList = Text.utf8Bytes s := by
  rw [percentEncode, String.toList_ofList, Text.utf8Bytes]
  induction s.toList with
  | nil => rfl
  | cons c cs ih =>
    rw [List.flatMap_cons, List.flatMap_cons]
    split
    next hc =>
      have hplain : c ≠ '%' := by
        rintro rfl
        simp [hsafe, isUnreserved] at hc
      rw [List.cons_append, List.nil_append, escapedBytes_plain hplain, ih]
    next => rw [escapedBytes_escapes, ih]

/-- **A text is read as it was escaped**, after one that has no escapes. -/
theorem percentDecode_append {before : String} (hbefore : '%' ∉ before.toList)
    (hsafe : '%' ∉ safe) (s : String) :
    percentDecode (before ++ percentEncode safe s) = before ++ s := by
  rw [percentDecode, String.toList_append, escapedBytes_plains hbefore,
    escapedBytes_percentEncode hsafe]
  exact (congrArg Text.utf8Lenient (Text.utf8Bytes_append before s).symm).trans
    (Text.utf8Lenient_utf8Bytes _)

/-! ## Steps of a path -/

theorem isUnreserved_capital : ∀ n < 16, isUnreserved (capitalHexDigit n) := by decide

/-- An escaped text holds nothing but unreserved characters and escapes. -/
theorem mem_percentEncode {s : String} (h : c ∈ (percentEncode [] s).toList) :
    isUnreserved c ∨ c = '%' := by
  rw [percentEncode, String.toList_ofList] at h
  obtain ⟨d, -, hc⟩ := List.mem_flatMap.1 h
  split at hc
  next hd =>
    obtain rfl := List.mem_singleton.1 hc
    exact .inl (by simpa using hd)
  next =>
    obtain ⟨b, -, hc⟩ := List.mem_flatMap.1 hc
    have hb : b.toNat < 256 := b.toNat_lt
    simp only [escapeByte, List.mem_cons, List.not_mem_nil, or_false] at hc
    rcases hc with rfl | rfl | rfl
    · exact .inr rfl
    · exact .inl (isUnreserved_capital _ (by omega))
    · exact .inl (isUnreserved_capital _ (by omega))

theorem walk_eq_append {done steps : List (List Char)}
    (h : ∀ step ∈ steps, step ≠ ['.'] ∧ step ≠ ['.', '.']) : walk done steps = done ++ steps := by
  induction steps generalizing done with
  | nil => exact (List.append_nil done).symm
  | cons step steps ih =>
    obtain ⟨hone, htwo⟩ := h step List.mem_cons_self
    rw [walk, if_neg hone, if_neg htwo, ih fun s hs => h s (List.mem_cons_of_mem _ hs)]
    simp

/-- A path stays as it is where no step of it is `.` or `..`. -/
theorem straightPath_intercalate {steps : List (List Char)} (hne : steps ≠ [])
    (hslash : ∀ step ∈ steps, '/' ∉ step)
    (hdots : ∀ step ∈ steps, step ≠ ['.'] ∧ step ≠ ['.', '.']) :
    straightPath (['/'].intercalate steps) = ['/'].intercalate steps := by
  rw [straightPath, List.splitOn_intercalate _ hslash hne, walk_eq_append hdots, List.nil_append]
  rfl

/-- The paths that go on with an id, step by step. -/
theorem beginning_cases {beginning : String} (h : beginning ∈ Route.beginnings) :
    ∃ step ∈ ["reviewer", "pr"], ∀ cs : List Char, beginning.toList ++ cs =
      ['/'].intercalate [[], "stats".toList, step.toList, cs] := by
  simp only [Route.beginnings, List.mem_cons, List.not_mem_nil, or_false] at h
  rcases h with rfl | rfl
  · refine ⟨"reviewer", by simp, fun cs => ?_⟩
    simp
  · exact ⟨"pr", by simp, fun cs => by simp⟩

/-- Only the texts `.` and `..` are escaped as steps that are carried out. -/
theorem percentEncode_ne {s t : String} (ht : percentDecode t = t) (hne : s ≠ t) :
    (percentEncode [] s).toList ≠ t.toList := by
  intro h
  have hdecoded : percentDecode (percentEncode [] s) = s := by
    have happend : percentDecode ("" ++ percentEncode [] s) = "" ++ s :=
      percentDecode_append (by simp) List.not_mem_nil s
    simpa using happend
  rw [String.toList_inj.1 h, ht] at hdecoded
  exact hne hdecoded.symm

theorem step_plain : ∀ step ∈ ["reviewer", "pr"],
    '/' ∉ step.toList ∧ step.toList ≠ ['.'] ∧ step.toList ≠ ['.', '.'] := by
  decide +kernel

theorem beginning_plain : ∀ b ∈ Route.beginnings,
    ('%' ∉ b.toList ∧ '#' ∉ b.toList ∧ '?' ∉ b.toList) ∧ b.toList.take 2 = ['/', 's'] := by
  decide +kernel

/-- **A text is read as it was escaped at the end of a path**, unless it is a step that is
    carried out. -/
theorem Target.ofText_step {beginning id : String}
    (hb : beginning ∈ Route.beginnings) (hone : id ≠ ".") (htwo : id ≠ "..") :
    Target.ofText (beginning ++ percentEncode [] id) = ⟨beginning ++ id, ""⟩ := by
  obtain ⟨⟨hpercent, hnumber, hquestion⟩, htake⟩ := beginning_plain beginning hb
  have hescaped : ∀ {c}, c ∈ (percentEncode [] id).toList → c ≠ '#' ∧ c ≠ '?' ∧ c ≠ '/' := by
    intro c hc
    refine ⟨?_, ?_, ?_⟩ <;> rintro rfl <;> simpa [isUnreserved] using mem_percentEncode hc
  obtain ⟨written, hwritten⟩ : ∃ cs, cs = beginning.toList ++ (percentEncode [] id).toList :=
    ⟨_, rfl⟩
  obtain ⟨rest, hrest⟩ : ∃ rest, written = '/' :: 's' :: rest := by
    refine ⟨beginning.toList.drop 2 ++ (percentEncode [] id).toList, ?_⟩
    rw [hwritten, ← List.take_append_drop 2 beginning.toList, htake]
    rfl
  have hhost : withoutHost written = written := by
    rw [hrest]
    rfl
  have hslash : '/' :: written.dropWhile (· == '/') = written := by
    rw [hrest]
    rfl
  have hnumbers : ∀ c ∈ written, (c != '#') = true := by
    intro c hc
    rw [hwritten] at hc
    rw [bne_iff_ne]
    rcases List.mem_append.1 hc with hc | hc
    · exact fun h => hnumber (h ▸ hc)
    · exact (hescaped hc).1
  have hquestions : ∀ c ∈ written, (c != '?') = true := by
    intro c hc
    rw [hwritten] at hc
    rw [bne_iff_ne]
    rcases List.mem_append.1 hc with hc | hc
    · exact fun h => hquestion (h ▸ hc)
    · exact (hescaped hc).2.1
  have hstraight : straightPath written = written := by
    obtain ⟨step, hstep, hsteps⟩ := beginning_cases hb
    rw [hwritten, hsteps]
    obtain ⟨hstepslash, hstepone, hsteptwo⟩ := step_plain step hstep
    refine straightPath_intercalate (by simp) ?_ ?_
    · simp only [List.forall_mem_cons, List.not_mem_nil, false_imp_iff, implies_true, and_true]
      exact ⟨by decide, by decide, hstepslash, fun h => (hescaped h).2.2 rfl⟩
    · simp only [List.forall_mem_cons, List.not_mem_nil, false_imp_iff, implies_true, and_true]
      refine ⟨by decide, by decide, ⟨hstepone, hsteptwo⟩, ?_, ?_⟩
      · exact percentEncode_ne (t := ".") (by decide +kernel) hone
      · exact percentEncode_ne (t := "..") (by decide +kernel) htwo
  have hdecoded : percentDecode (String.ofList written) = beginning ++ id := by
    rw [hwritten, ← String.toList_append, String.ofList_toList]
    exact percentDecode_append hpercent List.not_mem_nil id
  have hne : written.isEmpty = false := by
    rw [hrest]
    rfl
  simp only [ofText, String.toList_append, ← hwritten, hhost,
    List.takeWhile_eq_self_iff.2 hnumbers, List.takeWhile_eq_self_iff.2 hquestions,
    List.dropWhile_eq_nil_iff.2 hquestions, hslash, hstraight, hne, hdecoded]
  rfl

end Http

end ReviewRota
