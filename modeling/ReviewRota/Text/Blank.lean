/-
  ReviewRota — blank text.

  Two classes of characters count as empty room in a text: *white space*, as
  Unicode's property `White_Space` has it, and *blanks*, which are white space
  and the four information separators.  Both are closed lists of code points;
  zero-width characters (`U+200B`, `U+2060`, `U+FEFF`) belong to neither.

  * `isSpace`, `isBlank` are the two classes;
  * `trim` removes the blanks at both ends of a text;
  * `allBlank` holds of a text of blanks only, the empty text included, and
    `trim_eq_empty_iff` says that these are the texts of which nothing is left;
  * `squeeze` turns every run of blanks inside a text into one space.
-/
namespace ReviewRota.Text

/-! ## Classes of characters -/

/-- White space: the 25 code points with Unicode's property `White_Space`. -/
def isSpace (c : Char) : Bool :=
  let n := c.toNat
  (0x9 ≤ n && n ≤ 0xD) || n == 0x20 || n == 0x85 || n == 0xA0 || n == 0x1680 ||
    (0x2000 ≤ n && n ≤ 0x200A) || n == 0x2028 || n == 0x2029 || n == 0x202F ||
    n == 0x205F || n == 0x3000

/-- Blanks: white space and the information separators `U+001C` to `U+001F`. -/
def isBlank (c : Char) : Bool :=
  isSpace c || (0x1C ≤ c.toNat && c.toNat ≤ 0x1F)

/-! ## Trimming -/

/-- The list without the characters of the class at its two ends. -/
def trimEnds (p : Char → Bool) (cs : List Char) : List Char :=
  ((cs.dropWhile p).reverse.dropWhile p).reverse

/-- The text without the blanks at its two ends. -/
def trim (s : String) : String := String.ofList (trimEnds isBlank s.toList)

/-- The text holds blanks only. -/
def allBlank (s : String) : Bool := s.toList.all isBlank

theorem trimEnds_eq_nil_iff (p : Char → Bool) (cs : List Char) :
    trimEnds p cs = [] ↔ ∀ c ∈ cs, p c = true := by
  have hd : ∀ l : List Char, l.dropWhile p = [] ↔ ∀ c ∈ l, p c = true := by
    intro l
    induction l with
    | nil => simp
    | cons a l ih => by_cases h : p a = true <;> simp [h, ih]
  constructor
  · intro h
    simp only [trimEnds, List.reverse_eq_nil_iff, hd, List.mem_reverse] at h
    rw [← hd]
    by_cases hc : cs.dropWhile p = []
    · exact hc
    · exfalso
      obtain ⟨a, l, hal⟩ := List.exists_cons_of_ne_nil hc
      have := List.head_dropWhile_not p hc
      rw [hal] at h
      have ha := h a (by simp)
      simp [hal, ha] at this
  · intro h
    simp [trimEnds, (hd cs).2 h]

/-- Trimming leaves nothing exactly of the texts of blanks. -/
theorem trim_eq_empty_iff (s : String) : trim s = "" ↔ allBlank s = true := by
  rw [trim, allBlank, List.all_eq_true, ← trimEnds_eq_nil_iff isBlank s.toList]
  constructor
  · intro h
    have := congrArg String.toList h
    simpa using this
  · intro h
    simp [h]

/-! ## Words -/

/-- The words of a list of characters: its maximal pieces without blanks. -/
def words (cs : List Char) : List (List Char) :=
  (cs.splitOnP isBlank).filter (!·.isEmpty)

/-- The words of the text with one space between them. -/
def squeeze (s : String) : String :=
  " ".intercalate ((words s.toList).map String.ofList)

end ReviewRota.Text
