/-
  ReviewRota — random picks.

  Reviewers are picked by a generator that yields one draw after another: a
  number, or a failure.  A pick takes the member of the pool at the drawn index,
  modulo the size of the pool, and leaves a smaller pool for the next pick; a
  negative index counts from the end.  So
  every order of every choice of members is reached by some draws, and a failed
  draw is never replaced by a fixed choice.

  * `Draw` is one draw and `Generator` the draws to come, with the number taken;
    a generator that has run out yields zeros;
  * `pick` takes distinct members of a pool one after another;
  * `sample` takes at most so many, and `choice` at most one; both report a
    generator without randomness as a refusal.
-/
import ReviewRota.Failure

namespace ReviewRota

/-- What a generator yields. -/
inductive Draw where
  | index (n : Int)
  | failure (f : Failure)
  deriving DecidableEq, Repr

/-- The draws to come, and how many were taken. -/
structure Generator where
  draws : List Draw := []
  taken : Nat := 0
  deriving DecidableEq, Repr, Inhabited

/-- A computation that takes draws. -/
abbrev Drawing := ExceptT Failure (StateM Generator)

namespace Drawing

/-- The next draw. -/
def next : Drawing Int := do
  let g ← get
  match g.draws with
  | [] => set { g with taken := g.taken + 1 }; pure 0
  | .index n :: draws => set (Generator.mk draws (g.taken + 1)); pure n
  | .failure f :: draws => set (Generator.mk draws (g.taken + 1)); throw f

/-- The given number of distinct members of the pool, in the order of the
    picks. -/
def pick : Nat → List String → Drawing (List String)
  | 0, _ => pure []
  | k + 1, pool => do
    let i := ((← next) % (pool.length : Int)).toNat
    let rest ← pick k (pool.eraseIdx i)
    pure ((pool[i]?).toList ++ rest)

/-- A failure of the generator as the desk reports it: a generator that has no
    randomness to give is refused, any other failure stays as it is. -/
def report : Failure → Failure
  | .system reason | .unsupported reason => .refused (.noEntropy reason)
  | .timeout => .refused (.noEntropy Failure.timeout.text)
  | f => f

/-- At most `k` distinct members of the pool. -/
def sample (pool : List String) (k : Int) : Drawing (List String) :=
  tryCatch (pick (min k pool.length).toNat pool) fun f => throw (report f)

/-- One member of the pool, unless it is empty. -/
def choice (pool : List String) : Drawing (Option String) := do
  return (← sample pool 1).head?

example : ((sample ["a", "b", "c"] 2).run ⟨[.index 4, .index 3], 0⟩).1.toOption = some ["b", "c"] := by
  decide +kernel

end Drawing

end ReviewRota
