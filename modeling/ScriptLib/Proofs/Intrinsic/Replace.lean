import ScriptLib.Proofs.Number.Exact
import ScriptLib.Proofs.Random.FisherYates

/-!
# Replacing the first matches in a list or a map

`replace` on a list, or on a map's values in entry order, writes the new value in place of
the first `k` elements deep-equal to the old one, judged on the contents before the call,
and returns the receiver (`replace_rewrites_first_matches`). Without `maxCount` every match is
replaced; with a `maxCount` of value `q ≥ 1`, `k` is the whole part of `q` saturated at the
largest 64-bit word.

`replaced` says which elements change without the counter the code threads through its
pass: the element at position `i` changes exactly when it matches and fewer than `k` matches
stand before it (`replaceEqual_eq_mapIdx`, `replaceEqual_getD`). A `maxCount` from 1 to the
largest double passes its range check because no finite double lies above the largest one
(`value_le_maxDouble`).
-/

namespace ScriptLib

namespace Intrinsic

open Act Binary

/-- The elements with `new` in place of each one equal to `old` that has fewer than `k` equal
ones before it (every equal one when there is no bound). -/
def replaced (h : Heap) (old new : Value) (bound : Option Nat) (xs : List Value) : List Value :=
  xs.mapIdx fun i x =>
    if h.equal x old && bound.all (fun k => (xs.take i).countP (h.equal · old) < k) then new
    else x

/-- The counter of `replaceEqual` against the number of matches before each position. -/
theorem replaceEqual_eq_mapIdx (h : Heap) (old new : Value) :
    ∀ (k : Nat) (xs : List Value), replaceEqual h old new k xs =
      xs.mapIdx fun i x =>
        if h.equal x old && decide ((xs.take i).countP (h.equal · old) < k) then new else x
  | _, [] => rfl
  | 0, x :: xs => by
    rw [replaceEqual]
    · exact List.ext_getElem (by simp) fun i _ _ => by rw [List.getElem_mapIdx]; simp
    · simp
  | k + 1, x :: xs => by
    rw [List.mapIdx_cons]
    by_cases hx : h.equal x old = true
    · -- a match spends one replacement, and counts before every later position
      rw [replaceEqual, if_pos hx, replaceEqual_eq_mapIdx h old new k xs]
      simp only [hx, List.take_zero, List.countP_nil, Nat.zero_lt_succ, decide_true,
        Bool.and_self, if_true, List.take_succ_cons, List.countP_cons, Nat.add_lt_add_iff_right]
    · rw [replaceEqual, if_neg hx, replaceEqual_eq_mapIdx h old new (k + 1) xs]
      simp only [hx, Bool.false_and, Bool.false_eq_true, if_false, List.take_succ_cons,
        List.countP_cons, Nat.add_zero]

/-- With room for every match, `replaceEqual` is `replaced` with no bound. -/
theorem replaceEqual_of_length_lt (h : Heap) (old new : Value) {k : Nat} {xs : List Value}
    (hk : xs.length < k) : replaceEqual h old new k xs = replaced h old new none xs := by
  rw [replaceEqual_eq_mapIdx, replaced]
  congr 1
  funext i x
  -- every prefix holds fewer matches than `k`
  have : (xs.take i).countP (h.equal · old) < k :=
    lt_of_le_of_lt List.countP_le_length (lt_of_le_of_lt (List.length_take_le' _ _) hk)
  simp [this]

/-- `replaceEqual` with the counter a bound starts it at, or room for every element without
one, is `replaced`. -/
theorem replaceEqual_getD (h : Heap) (old new : Value) (bound : Option Nat) (xs : List Value) :
    replaceEqual h old new (bound.getD (xs.length + 1)) xs = replaced h old new bound xs := by
  cases bound with
  | none => exact replaceEqual_of_length_lt h old new (Nat.lt_succ_self _)
  | some k => simp [replaceEqual_eq_mapIdx, replaced]

theorem length_replaced (h : Heap) (old new : Value) (bound : Option Nat) (xs : List Value) :
    (replaced h old new bound xs).length = xs.length := by
  simp [replaced]

/-- A double's value is at most the value of the largest double. -/
theorem value_le_maxDouble {x : Double} {neg : Bool} {m : Nat} {e : Int}
    (hx : ofDouble x = .finite neg m e) : value neg m e ≤ value false (2 ^ 53 - 1) 971 := by
  have hc := canonical_of_ofBits hx
  have he := exp_le_of_ofBits hx
  have hm : (m : ℚ) ≤ 2 ^ 53 - 1 := by
    have : m + 1 ≤ 2 ^ 53 := by simp only [Canonical, fractionCount] at hc; omega
    have : (m : ℚ) + 1 ≤ 2 ^ 53 := by exact_mod_cast this
    linarith
  have hsign : (if neg then -(m : ℚ) else m) * 2 ^ e ≤ m * 2 ^ e := by
    have : (0 : ℚ) ≤ m * 2 ^ e := by positivity
    cases neg
    · simp
    · simp only [if_true, neg_mul]
      linarith
  unfold value
  calc (if neg then -(m : ℚ) else m) * 2 ^ e ≤ m * 2 ^ e := hsign
    _ ≤ (2 ^ 53 - 1) * 2 ^ (971 : Int) := by
        gcongr
        · exact one_le_two
        · simpa [maxExp] using he
    _ = _ := by norm_num

theorem ofDouble_maxDouble : ofDouble maxDouble = .finite false (2 ^ 53 - 1) 971 :=
  ofDouble_finiteBits ⟨by simp [fractionCount], by simp [minExp], .inl (by simp [fractionCount])⟩
    (by simp [maxExp])

/-- A `maxCount` of value at least 1 passes its range check and allows its whole part,
saturated at the largest 64-bit word. -/
theorem maxCount_of_value {n : Double} {q : ℚ} (hq : Number.value? n = some q) (h1 : 1 ≤ q) :
    Index.checkRange n (Number.ofInt 1) maxDouble "maxCount" = .ok () ∧
      (Number.toUInt64 n).toNat = min ⌊q⌋₊ (2 ^ 64 - 1) := by
  unfold Number.value? at hq
  split at hq
  case h_1 neg m e hn =>
    cases hq
    obtain ⟨m₁, e₁, hone, -, hv₁⟩ := Number.ofDouble_ofInt (z := 1) (by decide)
    have hfloor : 1 ≤ ⌊value neg m e⌋ := Int.le_floor.2 (by simpa using h1)
    refine ⟨?_, ?_⟩
    · have hlo : Number.lt n (Number.ofInt 1) = false := by
        rw [Number.lt, Number.compare?_eq hn hone, hv₁]
        simp [compare_lt_iff_lt, not_lt.2 (by exact_mod_cast h1)]
      have hhi : Number.lt maxDouble n = false := by
        rw [Number.lt, Number.compare?_eq ofDouble_maxDouble hn]
        simpa [compare_lt_iff_lt] using value_le_maxDouble hn
      have hnan : Number.isNaN n = false := by simp [Number.isNaN, hn]
      simp [Index.checkRange, hlo, hhi, hnan]
    · rw [Number.toUInt64, Number.saturate, hn]
      simp only [Number.trunc?_of_nonneg hn (by linarith), Option.getD_some]
      rw [← Int.floor_toNat]
      omega
  all_goals cases hq

/-- How `replace` reads its bound: nil gives none; any other `maxCount` is read as a number,
which must pass its range check. -/
def BoundRead (count : Value) (bound : Option Nat) : Prop :=
  count = .nil ∧ bound = none ∨
    ∃ n, count.toNumber? = some n ∧
      Index.checkRange n (Number.ofInt 1) maxDouble "maxCount" = .ok () ∧
      bound = some (Number.toUInt64 n).toNat

/-- `replace` on a list writes the replaced elements in place and returns the list. -/
theorem run_replace_list (w : World) (old new count : Value) (rest : List Value) (l : Handle)
    {bound : Option Nat} (hb : BoundRead count bound) :
    (replace (.list l :: old :: new :: count :: rest)).run.run w =
      let ys := replaced w.heap old new bound (w.heap.items l).toList
      (.ok (.list l), { w with heap := w.heap.setItems l ys.toArray }) := by
  rw [← replaceEqual_getD, Array.length_toList]
  rcases hb with ⟨rfl, rfl⟩ | ⟨n, hn, hc, rfl⟩
  · simp only [replace, argAt, List.getD_cons_zero, List.getD_cons_succ]
    rfl
  · have hnil : count ≠ .nil := by rintro rfl; cases hn
    simp only [replace, argAt, List.getD_cons_zero, List.getD_cons_succ, hn, run_bind, run_pure,
      run_ofResult, hc]
    rfl

/-- `replace` on a map gives the values in entry order the replaced ones, keeping the keys,
and returns the map. -/
theorem run_replace_map (w : World) (old new count : Value) (rest : List Value) (m : Handle)
    {bound : Option Nat} (hb : BoundRead count bound) :
    (replace (.map m :: old :: new :: count :: rest)).run.run w =
      let t := (w.heap.table m).setValues (replaced w.heap old new bound (w.heap.table m).values)
      (.ok (.map m), { w with heap := w.heap.setTable m t }) := by
  have hsize : (w.heap.table m).size = (w.heap.table m).values.length := by
    simp [Table.size, Table.values]
  rw [← replaceEqual_getD, ← hsize]
  rcases hb with ⟨rfl, rfl⟩ | ⟨n, hn, hc, rfl⟩
  · simp only [replace, argAt, List.getD_cons_zero, List.getD_cons_succ]
    rfl
  · have hnil : count ≠ .nil := by rintro rfl; cases hn
    simp only [replace, argAt, List.getD_cons_zero, List.getD_cons_succ, hn, run_bind, run_pure,
      run_ofResult, hc]
    rfl

/-- `replace` on a list, or on a map's values in entry order, with `maxCount` nil or a value
`n` from 1 to the largest double: with `k` unbounded for nil and `⌊n⌋` saturated at the
largest 64-bit word otherwise, the element at each position becomes `new` exactly when it is
among the first `k` elements deep-equal to `old` in the heap before the call; every other
element stays, and so do the length and a map's keys in their order; the receiver is
changed in place and returned. -/
theorem replace_rewrites_first_matches (w : World) (old new count : Value) (rest : List Value)
    (bound : Option Nat)
    (hbound : count = .nil ∧ bound = none ∨
      ∃ n q, count.toNumber? = some n ∧ Number.value? n = some q ∧ 1 ≤ q ∧
        bound = some (min ⌊q⌋₊ (2 ^ 64 - 1)))
    (l m : Handle) :
    (replace (.list l :: old :: new :: count :: rest)).run.run w =
      (.ok (.list l),
        { w with heap := w.heap.setItems l (replaced w.heap old new bound (w.heap.items l).toList).toArray }) ∧
    ∃ t, (replace (.map m :: old :: new :: count :: rest)).run.run w =
        (.ok (.map m), { w with heap := w.heap.setTable m t }) ∧
      t.keys = (w.heap.table m).keys ∧
      t.values = replaced w.heap old new bound (w.heap.table m).values := by
  have hb : BoundRead count bound := by
    rcases hbound with hnil | ⟨n, q, hn, hq, h1, rfl⟩
    · exact .inl hnil
    · obtain ⟨hc, hk⟩ := maxCount_of_value hq h1
      exact .inr ⟨n, hn, hc, by rw [hk]⟩
  refine ⟨run_replace_list w old new count rest l hb, _, run_replace_map w old new count rest m hb,
    Table.keys_setValues _ _, Table.values_setValues _ ?_⟩
  simp [length_replaced, Table.size, Table.values]

/-- A `maxCount` of `true` reads as 1: in a list and in a map that each hold two matches, only
the first is rewritten. -/
theorem replace_once_when_count_is_true :
    let h : Heap := {}
    let m := ((Table.empty.insert h.equal (.str "p") (.str "a")).1.insert h.equal
      (.str "q") (.str "a")).1
    let w : World := { heap := { lists := #[#[.str "a", .str "x", .str "a"]], maps := #[m] } }
    (∃ n q, (Value.bool true).toNumber? = some n ∧ Number.value? n = some q ∧ 1 ≤ q ∧
        (some 1 : Option Nat) = some (min ⌊q⌋₊ (2 ^ 64 - 1))) ∧
    (replace [.list 0, .str "a", .str "b", .bool true]).run.run w =
      (.ok (.list 0), { w with heap := w.heap.setItems 0 #[.str "b", .str "x", .str "a"] }) ∧
    ∃ t, (replace [.map 0, .str "a", .str "b", .bool true]).run.run w =
        (.ok (.map 0), { w with heap := w.heap.setTable 0 t }) ∧
      t.keys = [.str "p", .str "q"] ∧ t.values = [.str "b", .str "a"] := by
  intro h m w
  have hcount : ∃ n q, (Value.bool true).toNumber? = some n ∧ Number.value? n = some q ∧ 1 ≤ q ∧
      (some 1 : Option Nat) = some (min ⌊q⌋₊ (2 ^ 64 - 1)) :=
    ⟨Number.ofInt 1, 1, rfl, by exact_mod_cast Number.value?_ofInt (z := 1) (by decide), le_rfl,
      by simp⟩
  obtain ⟨hlist, t, hmap, hkeys, hvalues⟩ := replace_rewrites_first_matches w (.str "a")
    (.str "b") (.bool true) [] (some 1) (.inr hcount) 0 0
  have hitems : replaced w.heap (.str "a") (.str "b") (some 1) (w.heap.items 0).toList =
      [.str "b", .str "x", .str "a"] := rfl
  have hentries : replaced w.heap (.str "a") (.str "b") (some 1) (w.heap.table 0).values =
      [.str "b", .str "a"] := rfl
  rw [hitems] at hlist
  rw [hentries] at hvalues
  exact ⟨hcount, hlist, t, hmap, hkeys, hvalues⟩

end Intrinsic

end ScriptLib
