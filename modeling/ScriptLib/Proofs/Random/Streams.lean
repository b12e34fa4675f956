import ScriptLib.Random.Mulberry
import Mathlib

/-!
# Seeded streams draw in order

Each seed text has a stream of its own. The `j`-th draw of the stream of `σ`, counting from
its start, is the output mixing of the state `x₀ + j · 0x6D2B79F5`, where `x₀` is the first
output of the xmur3 mixer of `σ`, over `2 ^ 32` (`seededDraw`): the `j`-th number of the
Mulberry32 generator of `σ` (`seededDraw_eq_nextF64`).

The registry of streams keeps one generator per seed text drawn since it was last
cleared, advanced once per draw of that text (`Tracks`). So, whatever other seeds are drawn
in between, the `j`-th draw of `σ` since the last clear is the `j`-th number of its stream,
and the registry holds as many streams as distinct texts were drawn since then
(`replay_draws`).
-/

namespace ScriptLib

namespace Random

/-- The `j`-th draw of the stream of a seed text. -/
def seededDraw (seed : String) (j : Nat) : Double :=
  Binary.round false
    (Mulberry.mix ((Mulberry.ofSeed seed).state + UInt32.ofNat j * Mulberry.increment)).toNat
    (2 ^ 32)

/-- The generator of a seed text after `j` draws. -/
def Mulberry.advanced (seed : String) (j : Nat) : Mulberry :=
  ⟨(Mulberry.ofSeed seed).state + UInt32.ofNat j * Mulberry.increment⟩

@[simp] theorem Mulberry.advanced_zero (seed : String) :
    Mulberry.advanced seed 0 = Mulberry.ofSeed seed := by
  simp [Mulberry.advanced]

/-- One more draw from a generator advanced `j` times gives the next draw and advances it. -/
theorem Mulberry.nextF64_advanced (seed : String) (j : Nat) :
    (Mulberry.advanced seed j).nextF64 =
      (seededDraw seed (j + 1), Mulberry.advanced seed (j + 1)) := by
  have hstate : (Mulberry.ofSeed seed).state + UInt32.ofNat j * Mulberry.increment +
      Mulberry.increment =
      (Mulberry.ofSeed seed).state + UInt32.ofNat (j + 1) * Mulberry.increment := by
    rw [UInt32.ofNat_add]
    grind
  simp [Mulberry.nextF64, Mulberry.nextU32, Mulberry.advanced, seededDraw, hstate]

/-- The `j`-th draw is the `j`-th number of the seed's Mulberry32 generator. -/
theorem seededDraw_eq_nextF64 (seed : String) (j : Nat) :
    seededDraw seed (j + 1) = ((·.nextF64.2)^[j] (Mulberry.ofSeed seed)).nextF64.1 := by
  have hiter : ∀ k, (·.nextF64.2)^[k] (Mulberry.ofSeed seed) = Mulberry.advanced seed k := by
    intro k
    induction k with
    | zero => simp
    | succ k ih =>
      rw [Function.iterate_succ_apply', ih, Mulberry.nextF64_advanced]
  rw [hiter, Mulberry.nextF64_advanced]

/-! ## Lookups in the list of streams -/

section Lookup

variable {α : Type}

theorem lookup_replace (seed : String) (g : α) :
    ∀ (l : List (String × α)) (σ : String),
      (l.map fun p => if p.1 == seed then (seed, g) else p).lookup σ =
        if σ = seed ∧ seed ∈ l.map Prod.fst then some g else l.lookup σ
  | [], σ => by simp
  | (k, v) :: l, σ => by
    have ih := lookup_replace seed g l σ
    simp only [beq_iff_eq] at ih
    by_cases hk : k = seed
    · subst hk
      by_cases hσ : σ = k
      · subst hσ
        simp
      · simp [List.lookup_cons, beq_false_of_ne hσ, hσ, ih]
    · by_cases hσ : σ = k
      · subst hσ
        simp [hk]
      · have hmem : seed ∈ ((k, v) :: l).map Prod.fst ↔ seed ∈ l.map Prod.fst := by
          simp [Ne.symm hk]
        simp only [List.map_cons, List.lookup_cons, beq_false_of_ne hσ, beq_iff_eq, hk,
          if_false, ih]
        by_cases hs : σ = seed ∧ seed ∈ l.map Prod.fst
        · rw [if_pos hs, if_pos ⟨hs.1, hmem.2 hs.2⟩]
        · rw [if_neg hs, if_neg (fun h => hs ⟨h.1, hmem.1 h.2⟩)]

theorem keys_replace (seed : String) (g : α) (l : List (String × α)) :
    (l.map fun p => if p.1 == seed then (seed, g) else p).map Prod.fst = l.map Prod.fst := by
  rw [List.map_map]
  apply List.map_congr_left
  intro p _
  by_cases hp : p.1 = seed <;> simp [hp]

end Lookup

/-! ## The registry tracks the draws since it was cleared -/

namespace Seeds

/-- The registry holds, for each seed text drawn, once, its generator advanced once per
draw, and nothing else. -/
structure Tracks (s : Seeds) (drawn : List String) : Prop where
  keys_nodup : (s.streams.map Prod.fst).Nodup
  mem_keys : ∀ σ, σ ∈ s.streams.map Prod.fst ↔ σ ∈ drawn
  lookup_advanced : ∀ σ, σ ∈ drawn →
    s.streams.lookup σ = some (Mulberry.advanced σ (drawn.count σ))

theorem tracks_empty : Tracks {} [] :=
  ⟨List.nodup_nil, by simp, by simp⟩

theorem Tracks.lookup_eq {s : Seeds} {drawn : List String} (ht : s.Tracks drawn) (σ : String) :
    s.streams.lookup σ =
      if σ ∈ drawn then some (Mulberry.advanced σ (drawn.count σ)) else none := by
  split
  · exact ht.lookup_advanced σ ‹_›
  · rename_i hσ
    rw [List.lookup_eq_none_iff]
    intro p hp
    have hne : σ ≠ p.1 := fun he =>
      hσ ((ht.mem_keys σ).1 (he ▸ List.mem_map_of_mem hp))
    simpa using hne

/-- Where the registry tracks its draws, the next draw of a text is its draw numbered one
past the draws so far, and its stream, advanced once more, is put back in its place or, when
new, after the others. -/
theorem Tracks.next_eq {s : Seeds} {drawn : List String} (ht : s.Tracks drawn) (σ : String) :
    s.next σ = (seededDraw σ (drawn.count σ + 1),
      ⟨if σ ∈ drawn then
        s.streams.map fun p =>
          if p.1 == σ then (σ, Mulberry.advanced σ (drawn.count σ + 1)) else p
      else s.streams ++ [(σ, Mulberry.advanced σ (drawn.count σ + 1))]⟩) := by
  have hany : (s.streams.any fun p => p.1 == σ) = decide (σ ∈ drawn) := by
    rw [Bool.eq_iff_iff, decide_eq_true_iff, ← ht.mem_keys]
    simp [List.mem_map]
  unfold Seeds.next
  rw [ht.lookup_eq, hany]
  by_cases hσ : σ ∈ drawn
  · simp only [hσ, if_true, decide_true, Mulberry.nextF64_advanced]
  · simp only [hσ, decide_false, Bool.false_eq_true, ↓reduceIte,
      List.count_eq_zero_of_not_mem hσ, ← Mulberry.advanced_zero, Mulberry.nextF64_advanced]

/-- The next draw of a seed is its draw numbered one past the draws so far. -/
theorem Tracks.next_fst {s : Seeds} {drawn : List String} (ht : s.Tracks drawn) (σ : String) :
    (s.next σ).1 = seededDraw σ (drawn.count σ + 1) := by
  rw [ht.next_eq]

/-- A stream drawn before is advanced in place. -/
theorem Tracks.replace {s : Seeds} {drawn : List String} (ht : s.Tracks drawn) {σ : String}
    (hσ : σ ∈ drawn) :
    (⟨s.streams.map fun p =>
        if p.1 == σ then (σ, Mulberry.advanced σ (drawn.count σ + 1)) else p⟩ : Seeds).Tracks
      (drawn ++ [σ]) := by
  refine ⟨?_, ?_, ?_⟩
  · rw [keys_replace]
    exact ht.keys_nodup
  · intro τ
    rw [keys_replace, ht.mem_keys, List.mem_append, List.mem_singleton]
    constructor
    · exact Or.inl
    · rintro (h | rfl)
      · exact h
      · exact hσ
  · intro τ hτ
    rw [lookup_replace]
    by_cases hτσ : τ = σ
    · subst hτσ
      simp [(ht.mem_keys τ).2 hσ]
    · have hτ' : τ ∈ drawn := by simpa [hτσ] using hτ
      simp [hτσ, ht.lookup_advanced τ hτ', List.count_append, Ne.symm hτσ]

/-- A new stream is made at its first draw, after the others. -/
theorem Tracks.append {s : Seeds} {drawn : List String} (ht : s.Tracks drawn) {σ : String}
    (hσ : σ ∉ drawn) :
    (⟨s.streams ++ [(σ, Mulberry.advanced σ (drawn.count σ + 1))]⟩ : Seeds).Tracks
      (drawn ++ [σ]) := by
  have hkey : σ ∉ s.streams.map Prod.fst := by rwa [ht.mem_keys]
  refine ⟨?_, ?_, ?_⟩
  · simpa using ht.keys_nodup.concat hkey
  · intro τ
    simp [ht.mem_keys]
  · intro τ hτ
    rw [List.lookup_append]
    by_cases hτσ : τ = σ
    · subst hτσ
      have hnone : s.streams.lookup τ = none := by
        rw [ht.lookup_eq, if_neg hσ]
      simp [hnone, List.count_eq_zero_of_not_mem hσ]
    · have hτ' : τ ∈ drawn := by simpa [hτσ] using hτ
      simp [ht.lookup_advanced τ hτ', List.count_append, Ne.symm hτσ]

/-- A draw advances its own stream, made if new, and leaves the others. -/
theorem Tracks.next {s : Seeds} {drawn : List String} (ht : s.Tracks drawn) (σ : String) :
    (s.next σ).2.Tracks (drawn ++ [σ]) := by
  rw [ht.next_eq]
  by_cases hσ : σ ∈ drawn
  · simpa only [hσ, if_true] using ht.replace hσ
  · simpa only [hσ, if_false] using ht.append hσ

theorem Tracks.size_eq {s : Seeds} {drawn : List String} (ht : s.Tracks drawn) :
    s.size = drawn.toFinset.card := by
  have hset : (s.streams.map Prod.fst).toFinset = drawn.toFinset := by
    ext σ
    simp only [List.mem_toFinset]
    exact ht.mem_keys σ
  rw [size, ← List.length_map Prod.fst, ← List.toFinset_card_of_nodup ht.keys_nodup, hset]

/-- An operation on the registry: a draw from the stream of a seed text, or a clear. -/
inductive Op where
  | next (seed : String)
  | clear

/-- The registry after an operation. -/
def apply (s : Seeds) : Op → Seeds
  | .next seed => (s.next seed).2
  | .clear => s.clear

/-- The registry after a run of operations from a new one. -/
def replay (ops : List Op) : Seeds :=
  ops.foldl apply {}

/-- The seed texts drawn since the last clear, after one more operation. -/
def drawnAfter (drawn : List String) : Op → List String
  | .next seed => drawn ++ [seed]
  | .clear => []

/-- The seed texts drawn since the last clear of a run, in order. -/
def drawnSinceClear (ops : List Op) : List String :=
  ops.foldl drawnAfter []

theorem Tracks.apply {s : Seeds} {drawn : List String} (ht : s.Tracks drawn) :
    ∀ op, (s.apply op).Tracks (drawnAfter drawn op)
  | .next seed => ht.next seed
  | .clear => tracks_empty

/-- Every operation keeps the registry in step with the draws since the last clear. -/
theorem Tracks.foldl {s : Seeds} {drawn : List String} (ht : s.Tracks drawn) :
    ∀ ops : List Op, (ops.foldl Seeds.apply s).Tracks (ops.foldl drawnAfter drawn)
  | [] => ht
  | op :: ops => (ht.apply op).foldl ops

theorem tracks_replay (ops : List Op) : (replay ops).Tracks (drawnSinceClear ops) :=
  tracks_empty.foldl ops

/-- After any run of draws and clears, the next draw of a seed text is its draw numbered one
past its draws since the last clear, and the registry holds one stream per distinct text
drawn since then. -/
theorem replay_draws (ops : List Op) (σ : String) :
    ((replay ops).next σ).1 = seededDraw σ ((drawnSinceClear ops).count σ + 1) ∧
      (replay ops).size = (drawnSinceClear ops).toFinset.card :=
  ⟨(tracks_replay ops).next_fst σ, (tracks_replay ops).size_eq⟩

end Seeds

end Random

end ScriptLib
