import ScriptLib.Proofs.World.Clean
import ScriptLib.Proofs.Table.Buckets
import Mathlib.Data.Fintype.Perm
import Mathlib.SetTheory.Cardinal.Finite

/-!
# The Fisher–Yates shuffle is a bijection from draws to orders

The shuffle of `n` elements draws, for each position `i` from `n - 1` down to 1, a partner
`j ≤ i` and swaps the two. Whatever the source of the draws, as long as each keeps within
its range, the result is the input rearranged by one permutation of the positions,
`swaps n (n - 1) js`, where `js` lists the partners drawn (`shuffle_eq_swaps`).

The partner lists in range, `[0, n - 1] × … × [0, 1]`, and the permutations of `n`
positions are in one-to-one correspondence through `swaps` (`swaps_bijective`). After the
swap at position `i` nothing moves that position again, so the permutation sends `i` to
the partner drawn for it: that gives the draws back from the permutation, one position at
a time from the top. Both directions are inductions on the top position, and both rest on
one fact: the permutation of the swaps at positions `i` and below keeps every position
above `i` in place (`swaps_apply_of_lt`). With draws that are uniform and independent, every
order is then equally likely.

The unseeded source draws in range (`ChaCha.nextIndex_le`), and `shuffle` applies the
shuffle to a list, or to the values of a map in entry order, keeping its keys in their order.
-/

namespace ScriptLib

namespace Random

variable {σ α : Type}

/-! ## The partners drawn -/

/-- The partners the shuffle draws from a source for positions `i` down to 1. -/
def partners (draw : σ → Nat → Nat × σ) : Nat → σ → List Nat
  | 0, _ => []
  | i + 1, s => (draw s (i + 1)).1 :: partners draw i (draw s (i + 1)).2

/-- Partners in range for positions `i` down to 1: each at most its position. These lists
are the product `[0, i] × … × [0, 1]`. -/
def InRange : Nat → List Nat → Prop
  | 0, [] => True
  | i + 1, j :: js => j ≤ i + 1 ∧ InRange i js
  | _, _ => False

@[simp] theorem inRange_zero {js : List Nat} : InRange 0 js ↔ js = [] := by
  cases js <;> simp [InRange]

@[simp] theorem inRange_succ_cons {i j : Nat} {js : List Nat} :
    InRange (i + 1) (j :: js) ↔ j ≤ i + 1 ∧ InRange i js := Iff.rfl

theorem not_inRange_succ_nil {i : Nat} : ¬ InRange (i + 1) [] := id

/-- A source that draws each partner in its range gives partners in range. -/
theorem partners_inRange {draw : σ → Nat → Nat × σ} (hdraw : ∀ s i, (draw s i).1 ≤ i) :
    ∀ (i : Nat) (s : σ), InRange i (partners draw i s)
  | 0, _ => trivial
  | i + 1, s => ⟨hdraw s (i + 1), partners_inRange hdraw i _⟩

/-! ## The permutation of the swaps -/

/-- The exchange of two positions of `n`, nothing when one of them is past the end. -/
def swapAt (n a b : Nat) : Equiv.Perm (Fin n) :=
  if h : a < n ∧ b < n then Equiv.swap ⟨a, h.1⟩ ⟨b, h.2⟩ else 1

/-- The permutation of `n` positions made by exchanging each position `i` down to 1 with
its partner: position `k` of the result holds what position `swaps n i js k` held. -/
def swaps (n : Nat) : Nat → List Nat → Equiv.Perm (Fin n)
  | i + 1, j :: js => swapAt n (i + 1) j * swaps n i js
  | _, _ => 1

@[simp] theorem swaps_zero (n : Nat) (js : List Nat) : swaps n 0 js = 1 := by
  cases js <;> rfl

@[simp] theorem swaps_succ_cons (n i j : Nat) (js : List Nat) :
    swaps n (i + 1) (j :: js) = swapAt n (i + 1) j * swaps n i js := rfl

theorem swapAt_eq {n a b : Nat} (ha : a < n) (hb : b < n) :
    swapAt n a b = Equiv.swap ⟨a, ha⟩ ⟨b, hb⟩ := dif_pos ⟨ha, hb⟩

/-- Exchanging two elements of an array rearranges it by `swapAt`. -/
theorem getElem_swapIfInBounds {xs : Array α} {n : Nat} (hn : xs.size = n) (a b : Nat)
    (hs : (xs.swapIfInBounds a b).size = n) (k : Fin n) :
    (xs.swapIfInBounds a b)[k.1] = xs[(swapAt n a b k).1] := by
  rw [Array.getElem_swapIfInBounds]
  by_cases hab : a < n ∧ b < n
  · simp only [swapAt_eq hab.1 hab.2, Equiv.swap_apply_def]
    by_cases hka : k.1 = a
    · simp [hka, Fin.ext_iff, hn, hab.2]
    · by_cases hkb : k.1 = b
      · have hba : b ≠ a := by omega
        simp [hkb, hba, Fin.ext_iff, hn, hab.1]
      · simp [hka, hkb, Fin.ext_iff]
  · have hid : swapAt n a b = 1 := dif_neg hab
    rw [dif_neg (by omega), dif_neg (by omega)]
    simp only [hid, Equiv.Perm.coe_one, id_eq]

/-- The shuffle from position `i` down: the array rearranged by the swaps of the partners
drawn. -/
theorem shuffleGo_fst (draw : σ → Nat → Nat × σ) {n : Nat} :
    ∀ (i : Nat) (xs : Array α) (s : σ) (hn : xs.size = n),
      (shuffleGo draw i xs s).1 =
        Array.ofFn fun k : Fin n => xs[(swaps n i (partners draw i s) k).1]
  | 0, xs, s, hn => by
    refine Array.ext (by simp [shuffleGo, hn]) fun k _ hk => ?_
    simp [shuffleGo]
  | i + 1, xs, s, hn => by
    have hsize : (xs.swapIfInBounds (i + 1) (draw s (i + 1)).1).size = n := by simp [hn]
    -- the first swap, then the rest of the shuffle on the swapped array
    rw [shuffleGo, shuffleGo_fst draw i _ _ hsize]
    refine Array.ext (by simp) fun k _ _ => ?_
    simp only [Array.getElem_ofFn, partners, swaps_succ_cons, Equiv.Perm.mul_apply]
    exact getElem_swapIfInBounds hn _ _ hsize _

/-- `ys` is `xs` rearranged by the swaps of the partners `js`, which are in range. -/
def RearrangedBy (js : List Nat) (xs ys : Array α) : Prop :=
  InRange (xs.size - 1) js ∧
    ys = Array.ofFn fun k : Fin xs.size => xs[swaps xs.size (xs.size - 1) js k]

/-- The Fisher–Yates shuffle rearranges an array by the swaps of the partners it draws. -/
theorem shuffle_eq_swaps (draw : σ → Nat → Nat × σ) (xs : Array α) (s : σ) :
    (shuffle draw xs s).1 = Array.ofFn fun k : Fin xs.size =>
      xs[swaps xs.size (xs.size - 1) (partners draw (xs.size - 1) s) k] :=
  shuffleGo_fst draw _ xs s rfl

/-! ## From draws to permutations and back -/

section Bijection

variable {n : Nat}

/-- The swaps at positions `i` and below keep every position above `i`. -/
theorem swaps_apply_of_lt : ∀ {i : Nat} {js : List Nat}, InRange i js → ∀ k : Fin n, i < k.1 →
    swaps n i js k = k
  | 0, _, _, k, _ => by simp
  | i + 1, j :: js, ⟨hj, hjs⟩, k, hk => by
    rw [swaps_succ_cons, Equiv.Perm.mul_apply, swaps_apply_of_lt hjs k (by omega)]
    unfold swapAt
    split
    · exact Equiv.swap_apply_of_ne_of_ne (by simp [Fin.ext_iff]; omega)
        (by simp [Fin.ext_iff]; omega)
    · rfl

/-- The swaps at positions `i` and below send `i` to the partner drawn for it. -/
theorem swaps_apply_top {i j : Nat} {js : List Nat} (hin : InRange (i + 1) (j :: js))
    (hi : i + 1 < n) :
    swaps n (i + 1) (j :: js) ⟨i + 1, hi⟩ = ⟨j, by have := hin.1; omega⟩ := by
  rw [swaps_succ_cons, Equiv.Perm.mul_apply, swaps_apply_of_lt hin.2 _ (by simp),
    swapAt_eq hi (by have := hin.1; omega), Equiv.swap_apply_left]

/-- Distinct partner lists in range give distinct permutations. -/
theorem swaps_injective : ∀ {i : Nat} {js js' : List Nat}, i < n → InRange i js →
    InRange i js' → swaps n i js = swaps n i js' → js = js'
  | 0, js, js', _, hjs, hjs', _ => by simp_all
  | i + 1, [], _, _, hjs, _, _ => absurd hjs not_inRange_succ_nil
  | i + 1, _, [], _, _, hjs', _ => absurd hjs' not_inRange_succ_nil
  | i + 1, j :: js, j' :: js', hi, hjs, hjs', he => by
    have htop := congrArg (fun π : Equiv.Perm (Fin n) => (π ⟨i + 1, hi⟩).1) he
    simp only [swaps_apply_top hjs hi, swaps_apply_top hjs' hi] at htop
    subst htop
    rw [swaps_succ_cons, swaps_succ_cons, mul_right_inj] at he
    rw [swaps_injective (by omega) hjs.2 hjs'.2 he]

/-- A permutation of `n` positions that keeps the positions above `i` comes from partners
in range for positions `i` down to 1. -/
theorem exists_swaps_eq : ∀ {i : Nat}, i < n → ∀ π : Equiv.Perm (Fin n),
    (∀ k : Fin n, i < k.1 → π k = k) → ∃ js, InRange i js ∧ swaps n i js = π
  | 0, _, π, hπ => by
    refine ⟨[], trivial, ?_⟩
    ext k
    by_cases hk : 0 < k.1
    · simp [hπ k hk]
    · have h0 : ¬ 0 < (π k).1 := fun hpos => by
        have := hπ (π k) hpos
        rw [π.injective this] at hpos
        exact hk hpos
      simp only [swaps_zero, Equiv.Perm.coe_one, id_eq]
      omega
  | i + 1, hi, π, hπ => by
    set top : Fin n := ⟨i + 1, hi⟩
    have hj : (π top).1 ≤ i + 1 := by
      by_contra hgt
      have := hπ (π top) (by omega)
      rw [π.injective this] at hgt
      exact hgt (le_refl _)
    have hrest : ∀ k : Fin n, i < k.1 → (swapAt n (i + 1) (π top).1 * π) k = k := by
      intro k hk
      rw [Equiv.Perm.mul_apply, swapAt_eq hi (π top).2]
      by_cases hkt : k = top
      · subst hkt
        exact Equiv.swap_apply_right _ _
      · have hk' : i + 1 < k.1 := by
          have : k.1 ≠ i + 1 := fun h => hkt (Fin.ext h)
          omega
        rw [hπ k hk']
        exact Equiv.swap_apply_of_ne_of_ne hkt (by simp [Fin.ext_iff]; omega)
    obtain ⟨js, hjs, heq⟩ := exists_swaps_eq (by omega) _ hrest
    refine ⟨(π top).1 :: js, ⟨hj, hjs⟩, ?_⟩
    rw [swaps_succ_cons, heq, swapAt_eq hi (π top).2, Equiv.swap_mul_self_mul]

/-- The partner lists in range for positions `n - 1` down to 1 and the permutations of `n`
positions correspond one to one through the swaps. -/
theorem swaps_bijective (n : Nat) :
    Function.Bijective fun js : {js // InRange (n - 1) js} => swaps n (n - 1) js.1 := by
  rcases Nat.eq_zero_or_pos n with rfl | hn
  · refine ⟨fun js js' _ => Subtype.ext ?_, fun π => ⟨⟨[], trivial⟩, Subsingleton.elim _ _⟩⟩
    rw [inRange_zero.1 js.2, inRange_zero.1 js'.2]
  · refine ⟨fun js js' he => Subtype.ext (swaps_injective (by omega) js.2 js'.2 he), fun π => ?_⟩
    have htop : ∀ k : Fin n, n - 1 < k.1 → π k = k := by
      intro k hk
      have := k.2
      omega
    obtain ⟨js, hjs, heq⟩ := @exists_swaps_eq n (n - 1) (by omega) π htop
    exact ⟨⟨js, hjs⟩, heq⟩

/-- There are `n!` partner lists in range, one for each order of `n` elements. -/
theorem card_inRange (n : Nat) : Nat.card {js // InRange (n - 1) js} = n.factorial := by
  rw [Nat.card_eq_of_bijective _ (swaps_bijective n), Nat.card_eq_fintype_card,
    Fintype.card_perm, Fintype.card_fin]

end Bijection

/-! ## The unseeded source draws in range -/

namespace ChaCha

theorem nextIndex_go_le (range zone : Nat) (hr : 0 < range) :
    ∀ (fuel : Nat) (g : ChaCha), (nextIndex.go range zone fuel g).1 < range
  | 0, _ => hr
  | fuel + 1, g => by
    unfold nextIndex.go
    dsimp only
    split
    · have hv := g.nextU64.1.toNat_lt
      exact Nat.div_lt_of_lt_mul (Nat.mul_lt_mul_of_pos_right hv hr)
    · exact nextIndex_go_le range zone hr fuel _

theorem nextIndex_le (g : ChaCha) (i : Nat) : (g.nextIndex i).1 ≤ i := by
  unfold nextIndex
  dsimp only
  split
  · have := g.nextU64.1.toNat_lt
    omega
  · exact Nat.le_of_lt_succ (nextIndex_go_le _ _ (Nat.succ_pos i) 64 g)

end ChaCha

end Random

/-! ## Shuffling lists and maps -/

namespace Table

theorem keys_setValues (t : Table) (vs : List Value) : (t.setValues vs).keys = t.keys := by
  have := congrArg (List.map Prod.snd) (skeleton_setValues_go t.entries vs)
  simpa [keys, setValues, Entry.skeleton, Function.comp_def] using this

theorem values_setValues_go : ∀ (es : List Entry) (vs : List Value), vs.length = es.length →
    (setValues.go es vs).map Entry.val = vs
  | [], [], _ => rfl
  | e :: es, v :: vs, h => by
    simp only [setValues.go, List.map_cons, List.cons.injEq, true_and]
    exact values_setValues_go es vs (by simpa using h)

/-- New values for every entry replace the values in entry order. -/
theorem values_setValues (t : Table) {vs : List Value} (h : vs.length = t.size) :
    (t.setValues vs).values = vs :=
  values_setValues_go t.entries vs h

end Table

namespace Intrinsic

open Act ScriptLib.Random

/-- The draws of the unseeded source. -/
def unseededDraw (g : ChaCha) (i : Nat) : Nat × ChaCha := g.nextIndex i

theorem run_shuffle_list (w : World) (l : Handle)
    (hl : (w.heap.items l).size ≤ w.limits.maxShuffle) :
    (shuffle [.list l]).run.run w =
      (.ok .nil, { w with
        source := (Random.shuffle unseededDraw (w.heap.items l) w.source).2,
        heap := w.heap.setItems l (Random.shuffle unseededDraw (w.heap.items l) w.source).1 }) := by
  have hn : ¬ (w.heap.items l).size > w.limits.maxShuffle := by omega
  unfold shuffle
  rw [run_bind_ok (rfl : limits.run.run w = (.ok w.limits, w)), run_heap_bind]
  dsimp only [argAt, List.getD, List.getElem?_cons_zero, Option.getD_some]
  rw [if_neg hn]
  rfl

theorem run_shuffle_map (w : World) (m : Handle)
    (hm : (w.heap.table m).size ≤ w.limits.maxShuffle) :
    (shuffle [.map m]).run.run w =
      (.ok .nil, { w with
        source := (Random.shuffle unseededDraw (w.heap.table m).values.toArray w.source).2,
        heap := w.heap.setTable m ((w.heap.table m).setValues
          (Random.shuffle unseededDraw (w.heap.table m).values.toArray w.source).1.toList) }) := by
  have hn : ¬ (w.heap.table m).size > w.limits.maxShuffle := by omega
  unfold shuffle
  rw [run_bind_ok (rfl : limits.run.run w = (.ok w.limits, w)), run_heap_bind]
  dsimp only [argAt, List.getD, List.getElem?_cons_zero, Option.getD_some]
  rw [if_neg hn]
  rfl

/-- Shuffling list `l` in world `w` succeeds and rearranges the list by the partners that
the unseeded source draws, advancing the source. -/
def ListShuffled (w : World) (l : Handle) : Prop :=
  ∃ g ys, (shuffle [.list l]).run.run w =
      (.ok .nil, { w with source := g, heap := w.heap.setItems l ys }) ∧
    RearrangedBy (partners unseededDraw ((w.heap.items l).size - 1) w.source) (w.heap.items l) ys

/-- Shuffling map `m` in world `w` succeeds, keeps the map's keys in their order, and
rearranges its values, in entry order, by the partners that the unseeded source draws. -/
def MapShuffled (w : World) (m : Handle) : Prop :=
  ∃ g t, (shuffle [.map m]).run.run w =
      (.ok .nil, { w with source := g, heap := w.heap.setTable m t }) ∧
    t.keys = (w.heap.table m).keys ∧
    RearrangedBy (partners unseededDraw ((w.heap.table m).size - 1) w.source)
      (w.heap.table m).values.toArray t.values.toArray

theorem listShuffled {w : World} {l : Handle} (hl : (w.heap.items l).size ≤ w.limits.maxShuffle) :
    ListShuffled w l :=
  ⟨_, _, run_shuffle_list w l hl,
    partners_inRange ChaCha.nextIndex_le _ _, shuffle_eq_swaps _ _ _⟩

theorem mapShuffled {w : World} {m : Handle} (hm : (w.heap.table m).size ≤ w.limits.maxShuffle) :
    MapShuffled w m := by
  have hsize : (w.heap.table m).values.toArray.size = (w.heap.table m).size := by
    simp [Table.values, Table.size]
  refine ⟨_, _, run_shuffle_map w m hm, Table.keys_setValues _ _, ?_⟩
  rw [Table.values_setValues _ (by simp [shuffle_eq_swaps, hsize]), Array.toArray_toList, ← hsize]
  exact ⟨partners_inRange ChaCha.nextIndex_le _ _, shuffle_eq_swaps _ _ _⟩

/-- Shuffling rearranges by the partners drawn, and partners and orders correspond one to
one. Any source that draws each partner in its range makes the shuffle rearrange an array
by the swaps of the partners it draws; the partner lists in range for `n` elements and the
`n!` orders of them correspond one to one through the swaps, so uniform draws give every
order alike; the shuffle of a list within the limit does this with the unseeded source, and
the shuffle of a map does it to the map's values in entry order, its keys kept in order. -/
theorem shuffle_is_a_bijection_of_draws :
    (∀ {σ α : Type} (draw : σ → Nat → Nat × σ), (∀ s i, (draw s i).1 ≤ i) →
      ∀ (xs : Array α) (s : σ),
        RearrangedBy (partners draw (xs.size - 1) s) xs (Random.shuffle draw xs s).1) ∧
    (∀ n : Nat,
      Function.Bijective (fun js : {js // InRange (n - 1) js} => swaps n (n - 1) js.1) ∧
        Nat.card {js // InRange (n - 1) js} = n.factorial) ∧
    (∀ (w : World) (l : Handle), (w.heap.items l).size ≤ w.limits.maxShuffle →
      ListShuffled w l) ∧
    (∀ (w : World) (m : Handle), (w.heap.table m).size ≤ w.limits.maxShuffle →
      MapShuffled w m) :=
  ⟨fun draw hdraw xs s => ⟨partners_inRange hdraw _ _, shuffle_eq_swaps draw xs s⟩,
    fun n => ⟨swaps_bijective n, card_inRange n⟩,
    fun _ _ hl => listShuffled hl, fun _ _ hm => mapShuffled hm⟩

/-- Three texts shuffled by a source that reads its draws off the digits of a number, and a
list and a map shuffled by the unseeded source. -/
theorem shuffle_three_texts_and_a_map :
    let digits : Nat → Nat → Nat × Nat := fun s i => (s % (i + 1), s / (i + 1))
    let t : Table := { entries := [⟨0, .str "k", .bool true⟩, ⟨1, .str "j", .str "v"⟩] }
    let w : World := { heap := { lists := #[#[.str "a", .str "b", .str "c"]], maps := #[t] } }
    RearrangedBy (partners digits 2 5) #["a", "b", "c"]
        (Random.shuffle digits #["a", "b", "c"] 5).1 ∧
      ListShuffled w 0 ∧ MapShuffled w 0 := by
  intro digits t w
  have hdigits : ∀ s i, (digits s i).1 ≤ i := fun s i => Nat.le_of_lt_succ (Nat.mod_lt s i.succ_pos)
  exact ⟨shuffle_is_a_bijection_of_draws.1 digits hdigits _ _,
    shuffle_is_a_bijection_of_draws.2.2.1 w 0 (by decide),
    shuffle_is_a_bijection_of_draws.2.2.2 w 0 (by decide)⟩

end Intrinsic

end ScriptLib
