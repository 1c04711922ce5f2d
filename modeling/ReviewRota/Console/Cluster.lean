/-
  ReviewRota — clusters of characters.

  What is seen as one sign may be made of many characters: a letter with marks on
  it, a picture that a selector asks for, or pictures that a joiner makes one.
  Such a cluster is never divided, and it has a width of its own.

  * `Cluster` is a cluster, and `clusters` are those of a text; nothing of the text
    is lost (`flatMap_clusters`);
  * `cells` are the cells of a text;
  * `fitting` are the first clusters that fit into so many cells
    (`cellsOfAll_fitting_le`).
-/
import ReviewRota.Console.Width

namespace ReviewRota.Console

/-- Characters that are seen as one sign, and the cells that it takes. -/
structure Cluster where
  chars : List Char
  cells : Nat
  deriving DecidableEq, Repr

/-! ## Clusters of a text -/

/-- The character that makes one sign of the characters at its sides. -/
def joiner : Char := '\u200D'

/-- The character that asks for the picture of the one before it. -/
def pictureSelector : Char := '\uFE0F'

/-- A cluster that is being read: its characters, the last one first, its cells, and
    the character that may still turn out to be a picture. -/
structure Cluster.Begun where
  reversed : List Char := []
  cells : Nat := 0
  base : Option Char := none

namespace Cluster.Begun

/-- The begun cluster with a character more. -/
def more (b : Begun) (c : Char) : Begun := { b with reversed := c :: b.reversed }

/-- The cluster that began, if anything did. -/
def complete (b : Begun) : List Cluster :=
  if b.reversed.isEmpty then [] else [⟨b.reversed.reverse, b.cells⟩]

/-- The begun cluster behind a picture selector. -/
def selected (b : Begun) : Begun :=
  if b.base.any hasPicture then
    { b.more pictureSelector with cells := b.cells + 1, base := none }
  else b.more pictureSelector

end Cluster.Begun

/-- The clusters of a text behind one that is begun.  A joiner takes the next
    character along, and one without cells belongs to the cluster before it. -/
def clustersFrom (b : Cluster.Begun) : List Char → List Cluster
  | [] => b.complete
  | c :: cs =>
    if c = joiner then
      match cs with
      | [] => (b.more c).complete
      | joined :: cs => clustersFrom ((b.more c).more joined) cs
    else if c = pictureSelector then clustersFrom b.selected cs
    else if cellsOf c = 0 then clustersFrom (b.more c) cs
    else b.complete ++ clustersFrom ⟨[c], cellsOf c, some c⟩ cs

/-- The clusters of a text. -/
def clusters (cs : List Char) : List Cluster := clustersFrom {} cs

theorem Cluster.Begun.flatMap_complete (b : Begun) :
    b.complete.flatMap Cluster.chars = b.reversed.reverse := by
  unfold complete
  split <;> simp_all

theorem Cluster.Begun.reversed_more (b : Begun) (c : Char) :
    (b.more c).reversed = c :: b.reversed := rfl

theorem Cluster.Begun.reversed_selected (b : Begun) :
    b.selected.reversed = pictureSelector :: b.reversed := by
  unfold selected
  split <;> rfl

theorem flatMap_clustersFrom (b : Cluster.Begun) (cs : List Char) :
    (clustersFrom b cs).flatMap Cluster.chars = b.reversed.reverse ++ cs := by
  fun_induction clustersFrom b cs with
  | case1 b => simp [b.flatMap_complete]
  | case2 b => simp [Cluster.Begun.flatMap_complete, Cluster.Begun.reversed_more]
  | case3 b joined cs ih => simp [ih, Cluster.Begun.reversed_more]
  | case4 b cs _ ih => simp [ih, b.reversed_selected]
  | case5 b c cs _ _ _ ih => simp [ih, Cluster.Begun.reversed_more]
  | case6 b c cs _ _ _ ih => simp [ih, b.flatMap_complete]

theorem flatMap_clusters (cs : List Char) : (clusters cs).flatMap Cluster.chars = cs := by
  simp [clusters, flatMap_clustersFrom]

/-! ## Width -/

/-- The cells of many clusters. -/
def cellsOfAll : List Cluster → Nat
  | [] => 0
  | k :: ks => k.cells + cellsOfAll ks

/-- The cells of a text. -/
def cells (cs : List Char) : Nat := cellsOfAll (clusters cs)

/-- The first clusters, as long as they take no more than so many cells. -/
def fitting : Nat → List Cluster → List Cluster
  | _, [] => []
  | room, k :: ks => if k.cells ≤ room then k :: fitting (room - k.cells) ks else []

theorem cellsOfAll_fitting_le (room : Nat) (ks : List Cluster) :
    cellsOfAll (fitting room ks) ≤ room := by
  induction ks generalizing room with
  | nil => simp [fitting, cellsOfAll]
  | cons k ks ih =>
    rw [fitting]
    split
    · have := ih (room - k.cells)
      simp only [cellsOfAll]
      omega
    · simp [cellsOfAll]

example : cells "aé\u56E2\u0301".toList = 4 ∧ cells "\u2764\uFE0F".toList = 2 ∧
    (clusters "\u2764\uFE0F\u200D🔥!".toList).map Cluster.cells = [2, 1] := by
  decide +kernel
example : (fitting 3 (clusters "a\u56E2b".toList)).flatMap Cluster.chars = "a\u56E2".toList := by
  decide +kernel

end ReviewRota.Console
