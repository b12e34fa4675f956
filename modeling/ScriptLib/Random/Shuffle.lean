/-!
# Shuffling

The Fisher–Yates shuffle, for any source of draws: for each position `i` from the last
down to 1 it draws an index `j ≤ i` and swaps the elements at `i` and `j`. With uniform
draws every order of the elements is equally likely.
-/

namespace ScriptLib

namespace Random

/-- Swaps at positions `i` down to 1, drawing each partner from the source. -/
def shuffleGo {σ α : Type} (draw : σ → Nat → Nat × σ) : Nat → Array α → σ → Array α × σ
  | 0, xs, s => (xs, s)
  | i + 1, xs, s =>
    let (j, s') := draw s (i + 1)
    shuffleGo draw i (xs.swapIfInBounds (i + 1) j) s'

/-- The Fisher–Yates shuffle of an array. -/
def shuffle {σ α : Type} (draw : σ → Nat → Nat × σ) (xs : Array α) (s : σ) : Array α × σ :=
  shuffleGo draw (xs.size - 1) xs s

end Random

end ScriptLib
