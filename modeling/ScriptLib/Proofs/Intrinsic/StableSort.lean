import ScriptLib.Proofs.World.Clean
import Mathlib.Data.List.Pairwise

/-!
# Sorting is the stable sort by the keys of the elements

A stable sort of a list under a total preorder `le` is a rearrangement of the list that is
in order, where elements that tie keep the order they had (`StableSortOf`). There is exactly
one: two stable sorts of one list agree (`StableSortOf.unique`), so any stable sorting
algorithm gives it, and the merge sort of the library is one (`stableSortOf_mergeSort`).

The keys of `sort` are totally preordered: the order of keys is the lexicographic order of
their rank (missing, number, text, other), the place of a number in the total order of
doubles, the lowercase of a text, and the text itself reversed (`compare_eq_lexOrder`). So
`sort` replaces a list's elements with the one stable sort of them by their keys, reversed
when descending (`sort_is_the_stable_sort`), and never fails. Ascending, the ranks of the
keys never decrease along the result: missing keys first, then numbers, then texts, then
other values; descending, the other way round.
-/

namespace ScriptLib

/-! ## Stable sorts -/

section StableSort

variable {α : Type} {le : α → α → Bool}

/-- Two elements tie when each may come before the other. -/
def ties (le : α → α → Bool) (a b : α) : Bool := le a b && le b a

/-- `r` is a stable sort of `l` under `le`: a rearrangement of `l` in order, where the
elements that tie with any given one come in the order they have in `l`. -/
structure StableSortOf (le : α → α → Bool) (l r : List α) : Prop where
  perm : r.Perm l
  sorted : r.Pairwise fun a b => le a b
  stable : ∀ a, r.filter (ties le a) = l.filter (ties le a)

variable (htrans : ∀ a b c, le a b → le b c → le a c) (htotal : ∀ a b, (le a b || le b a) = true)
include htrans htotal

omit htotal in
/-- The elements that tie with one element are in order among themselves. -/
theorem pairwise_filter_ties (l : List α) (a : α) :
    (l.filter (ties le a)).Pairwise fun x y => le x y := by
  refine List.pairwise_of_forall_mem_list fun x hx y hy => ?_
  simp only [List.mem_filter, ties, Bool.and_eq_true] at hx hy
  exact htrans x a y hx.2.2 hy.2.1

/-- The merge sort is a stable sort. -/
theorem stableSortOf_mergeSort (l : List α) : StableSortOf le l (l.mergeSort le) where
  perm := List.mergeSort_perm l le
  sorted := List.pairwise_mergeSort htrans htotal l
  stable a := by
    have hsub : (l.filter (ties le a)).Sublist (l.mergeSort le) :=
      List.sublist_mergeSort htrans htotal (pairwise_filter_ties htrans l a)
        List.filter_sublist
    have hsub' := hsub.filter (ties le a)
    rw [List.filter_filter] at hsub'
    simp only [Bool.and_self] at hsub'
    exact (hsub'.eq_of_length ((List.mergeSort_perm l le).filter _).length_eq.symm).symm

omit htrans in
theorem ties_self (a : α) : ties le a a = true := by
  have := htotal a a
  simp_all [ties]

omit htrans in
/-- Two lists in order, rearrangements of each other, with the same elements tying with
each element in the same order, are equal. The first elements of both are least, so they
tie; the one that comes first among those tying with it is the same on both sides. -/
theorem eq_of_sorted_of_ties : ∀ {r r' : List α}, r.Perm r' → r.Pairwise (fun a b => le a b) →
    r'.Pairwise (fun a b => le a b) → (∀ a, r.filter (ties le a) = r'.filter (ties le a)) →
    r = r'
  | [], _, hp, _, _, _ => hp.nil_eq
  | _ :: _, [], hp, _, _, _ => absurd hp.symm.nil_eq (List.cons_ne_nil _ _).symm
  | x :: xs, y :: ys, hp, hs, hs', hf => by
    rw [List.pairwise_cons] at hs hs'
    have hxy : le x y = true := by
      rcases List.mem_cons.1 (hp.symm.subset List.mem_cons_self) with h | h
      · rw [h]; simpa using htotal x x
      · exact hs.1 y h
    have hyx : le y x = true := by
      rcases List.mem_cons.1 (hp.subset List.mem_cons_self) with h | h
      · rw [h]; simpa using htotal y y
      · exact hs'.1 x h
    have hx := hf x
    rw [List.filter_cons_of_pos (ties_self htotal x),
      List.filter_cons_of_pos (by simp [ties, hxy, hyx])] at hx
    obtain ⟨rfl, -⟩ := List.cons.inj hx
    have hrest : ∀ a, xs.filter (ties le a) = ys.filter (ties le a) := by
      intro a
      have ha := hf a
      by_cases hxa : ties le a x = true
      · rw [List.filter_cons_of_pos hxa, List.filter_cons_of_pos hxa] at ha
        exact List.cons.inj ha |>.2
      · rw [List.filter_cons_of_neg hxa, List.filter_cons_of_neg hxa] at ha
        exact ha
    rw [eq_of_sorted_of_ties hp.cons_inv hs.2 hs'.2 hrest]

omit htrans in
/-- There is one stable sort of a list. -/
theorem StableSortOf.unique {l r r' : List α} (hr : StableSortOf le l r)
    (hr' : StableSortOf le l r') : r = r' :=
  eq_of_sorted_of_ties htotal (hr.perm.trans hr'.perm.symm) hr.sorted hr'.sorted
    fun a => (hr.stable a).trans (hr'.stable a).symm

/-- A list is a stable sort of `l` exactly when it is the merge sort of `l`. -/
theorem stableSortOf_iff_eq_mergeSort (l r : List α) :
    StableSortOf le l r ↔ r = l.mergeSort le :=
  ⟨fun hr => hr.unique htotal (stableSortOf_mergeSort htrans htotal l),
    fun hr => hr ▸ stableSortOf_mergeSort htrans htotal l⟩

end StableSort

/-! ## The order of sort keys -/

namespace Intrinsic

namespace SortKey

/-- The place of a number key in the total order of doubles, 0 for other keys. -/
def place : SortKey → Int
  | .number x => totalPlace x
  | _ => 0

/-- The lowercase of a text or of another value's text, empty for other keys. -/
def folded : SortKey → String
  | .text _ l | .other _ l => l
  | _ => ""

/-- The text of a text key or of another value, empty for other keys. -/
def original : SortKey → String
  | .text s _ | .other s _ => s
  | _ => ""

/-- The texts of two keys the other way round. -/
def reversedText (k k' : SortKey) : Ordering := Ord.compare k'.original k.original

instance : Std.TransCmp reversedText where
  eq_swap := by
    unfold reversedText
    exact Std.OrientedCmp.eq_swap
  isLE_trans hab hbc := by
    unfold reversedText at *
    exact Std.TransCmp.isLE_trans hbc hab

/-- Keys in lexicographic order: rank, the place of a number, the lowercase, and the text
reversed. -/
def lexOrder : SortKey → SortKey → Ordering :=
  compareLex (compareOn rank) <| compareLex (compareOn place) <|
    compareLex (compareOn folded) reversedText

theorem compareFolded_eq (a al b bl : String) :
    compareFolded a al b bl = (Ord.compare al bl).then (Ord.compare b a) := by
  unfold compareFolded
  split <;> simp_all [Ordering.then]

/-- The order of keys is the lexicographic one. -/
theorem compare_eq_lexOrder (k k' : SortKey) : k.compare k' = lexOrder k k' := by
  cases k <;> cases k' <;>
    simp [SortKey.compare, lexOrder, compareLex, compareOn, reversedText, rank, place, folded,
      original, compareFolded_eq] <;> rfl

/-- Keys are totally preordered. -/
instance : Std.TransCmp SortKey.compare :=
  (funext₂ compare_eq_lexOrder).symm ▸ inferInstanceAs (Std.TransCmp (compareLex
    (compareOn rank) <| compareLex (compareOn place) <|
      compareLex (compareOn folded) reversedText))

/-- A key that may come before another has a rank no greater. -/
theorem rank_le_of_isLE {k k' : SortKey} (h : (k.compare k').isLE = true) : k.rank ≤ k'.rank := by
  rw [compare_eq_lexOrder] at h
  simp only [lexOrder, compareLex, compareOn, Ordering.isLE_then_iff_and] at h
  exact Nat.isLE_compare.1 h.1

/-- Of two keys, one may come before the other. -/
theorem compare_isLE_total (k k' : SortKey) :
    ((k.compare k').isLE || (k'.compare k).isLE) = true := by
  rw [@Std.OrientedCmp.eq_swap SortKey SortKey.compare _ k' k]
  cases k.compare k' <;> rfl

end SortKey

/-- The order in which `sort` puts elements: by their keys under the selector, the other way
round when descending. -/
def keyOrder (h : Heap) (selector asc : Value) (x y : Value) : Bool :=
  if h.truthy asc then
    (SortKey.ofElement h x selector).compare (SortKey.ofElement h y selector) != .gt
  else (SortKey.ofElement h y selector).compare (SortKey.ofElement h x selector) != .gt

theorem ne_gt_eq_isLE (o : Ordering) : (o != .gt) = o.isLE := by
  cases o <;> rfl

theorem keyOrder_trans (h : Heap) (selector asc : Value) (x y z : Value) :
    keyOrder h selector asc x y = true → keyOrder h selector asc y z = true →
      keyOrder h selector asc x z = true := by
  unfold keyOrder
  split
  · simp only [ne_gt_eq_isLE]
    exact Std.TransCmp.isLE_trans
  · simp only [ne_gt_eq_isLE]
    exact fun hxy hyz => Std.TransCmp.isLE_trans hyz hxy

theorem keyOrder_total (h : Heap) (selector asc : Value) (x y : Value) :
    (keyOrder h selector asc x y || keyOrder h selector asc y x) = true := by
  unfold keyOrder
  split <;> simp only [ne_gt_eq_isLE] <;> exact SortKey.compare_isLE_total _ _

/-- Sorting a list writes back the merge sort of its elements by their keys. -/
theorem run_sort (w : World) (l : Handle) (selector asc : Value) :
    (sort [.list l, selector, asc]).run.run w =
      (.ok (.list l), { w with heap := (w.heap.setItems l
        ((w.heap.items l).toList.mergeSort (keyOrder w.heap selector asc)).toArray) }) := by
  -- sorting the keyed pairs and dropping the keys is sorting the elements by their keys
  have hkeyed : List.map Prod.snd (List.mergeSort
        ((w.heap.items l).toList.map fun x => (SortKey.ofElement w.heap x selector, x))
        (fun a b => if w.heap.truthy asc then a.1.compare b.1 != .gt else b.1.compare a.1 != .gt)) =
      (((w.heap.items l).toList.map fun x => (SortKey.ofElement w.heap x selector, x)).map
        Prod.snd).mergeSort (keyOrder w.heap selector asc) := by
    refine List.map_mergeSort fun a ha b hb => ?_
    obtain ⟨x, -, rfl⟩ := List.mem_map.1 ha
    obtain ⟨y, -, rfl⟩ := List.mem_map.1 hb
    rfl
  simp only [List.map_map, Function.comp_def, List.map_id'] at hkeyed
  rw [← hkeyed]
  rfl

/-- The ranks of the keys along a list sorted by `keyOrder`: ascending, they never decrease;
descending, they never increase. -/
theorem pairwise_rank_of_sorted (h : Heap) (selector asc : Value) {r : List Value}
    (hr : r.Pairwise fun x y => keyOrder h selector asc x y) :
    (r.map fun x => (SortKey.ofElement h x selector).rank).Pairwise
      (if h.truthy asc then (· ≤ ·) else (· ≥ ·)) := by
  rw [List.pairwise_map]
  refine hr.imp fun {x y} hxy => ?_
  unfold keyOrder at hxy
  split at hxy
  · rename_i hasc
    simp only [hasc, if_true]
    exact SortKey.rank_le_of_isLE (by rwa [← ne_gt_eq_isLE])
  · rename_i hasc
    simp only [hasc]
    exact SortKey.rank_le_of_isLE (by rwa [← ne_gt_eq_isLE])

/-- `sort` never fails and replaces a list's elements with the one stable sort of them by
their keys under the selector, descending when the third argument is falsy. The keys are
totally preordered, and along the result their ranks never decrease when ascending, and
never increase when descending. -/
theorem sort_is_the_stable_sort (w : World) (l : Handle) (selector asc : Value) :
    Std.TransCmp SortKey.compare ∧
      ∃ r, (sort [.list l, selector, asc]).run.run w =
          (.ok (.list l), { w with heap := w.heap.setItems l r.toArray }) ∧
        (∀ r', StableSortOf (keyOrder w.heap selector asc) (w.heap.items l).toList r' ↔
          r' = r) ∧
        (r.map fun x => (SortKey.ofElement w.heap x selector).rank).Pairwise
          (if w.heap.truthy asc then (· ≤ ·) else (· ≥ ·)) := by
  have htrans := keyOrder_trans w.heap selector asc
  have htotal := keyOrder_total w.heap selector asc
  refine ⟨inferInstance, _, run_sort w l selector asc,
    fun r' => stableSortOf_iff_eq_mergeSort htrans htotal _ r', ?_⟩
  exact pairwise_rank_of_sorted w.heap selector asc (List.pairwise_mergeSort htrans htotal _)

end Intrinsic

end ScriptLib
