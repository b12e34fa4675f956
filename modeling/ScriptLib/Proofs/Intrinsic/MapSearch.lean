import ScriptLib.Proofs.Table.Invariant
import ScriptLib.Proofs.Heap.Symmetry
import ScriptLib.Proofs.World.Clean

/-!
# Searching a map by value

On a map, `indexOf` answers the first key, after the entry of a given key, whose value is
deep-equal to a needle, and `lastIndexOf` the last one before it. Resumed from each of its own
answers, each search walks the keys whose values match (`matchingKeys`), once each, in the
order of the entries or in reverse, and then answers nil (`Walks`,
`map_search_walks_matching_keys`).

Resuming looks the key up again by a first-match scan of deep equality. That scan lands on the
key's own entry because deep equality is reflexive (`Heap.equal_refl`) and a map built by its
operations holds no key equal to a later one (`Table.run_keysApart`). The one key the walk
cannot pass is nil, which as an offset means "from the start": a map whose first match is a
nil key answers that key again and again (`nil_key_restarts_the_walk`).
-/

namespace ScriptLib

namespace Heap

/-- Deep equality is reflexive: a number equals itself unless it is NaN, and NaN equals NaN. -/
theorem equal_refl (h : Heap) (v : Value) : h.equal v v = true := by
  cases v with
  | num x => simpa [equal, equalIn] using Number.eq_self_or_isNaN x
  | _ => simp [equal, equalIn]

end Heap

namespace Intrinsic

open Act

/-! ## Cutting entries at a match -/

section Cut

variable {α : Type} {p : α → Bool}

/-- A list cut at its `i`-th element that passes a test: the matches before the cut are the
first `i`, those after it the rest. -/
theorem exists_cut_at_match {l ms : List α} (hms : l.filter p = ms) {i : Nat}
    (hi : i < ms.length) :
    ∃ pre post, l = pre ++ ms[i] :: post ∧ pre.filter p = ms.take i ∧
      post.filter p = ms.drop (i + 1) := by
  have hcut : l.filter p = ms.take i ++ ms[i] :: ms.drop (i + 1) := by
    rw [List.getElem_cons_drop, List.take_append_drop, hms]
  obtain ⟨l₁, l₂, hl, h₁, h₂⟩ := List.filter_eq_append_iff.1 hcut
  -- what lies between the first `i` matches and the `i`-th one passes no test
  obtain ⟨a, post, hl₂, ha, -, hpost⟩ := List.filter_eq_cons_iff.1 h₂
  refine ⟨l₁ ++ a, post, by rw [hl, hl₂, List.append_assoc], ?_, hpost⟩
  rw [List.filter_append, h₁, List.filter_eq_nil_iff.2 ha, List.append_nil]

/-- The last of the elements before the one `i` from the end is the one after it in the
reversed list. -/
theorem getLast?_take_eq_getElem?_reverse {l : List α} {i : Nat} (hi : i < l.length) :
    (l.take (l.length - 1 - i)).getLast? = l.reverse[i + 1]? := by
  rw [List.getLast?_take]
  split
  · rw [List.getElem?_eq_none (by simp; omega)]
  · rw [List.getElem?_reverse (by omega), show l.length - 1 - (i + 1) = l.length - 1 - i - 1 by omega,
      List.getElem?_eq_getElem (by omega), Option.some_or]

variable {h : Heap} {P : Entry → Bool} {es ms : List Entry}

/-- In entries whose keys are apart, the first entry whose key equals an entry's key is that
entry. -/
theorem keyPosition_cut {pre post : List Entry} {e : Entry}
    (hap : ((pre ++ e :: post).map Entry.key).Pairwise fun a b => h.equal a b = false) :
    keyPosition h (pre ++ e :: post) e.key = some pre.length := by
  have hpre : ∀ x ∈ pre, h.equal x.key e.key = false := by
    intro x hx
    rw [List.map_append, List.pairwise_append] at hap
    exact hap.2.2 _ (List.mem_map_of_mem hx) _ (by simp)
  unfold keyPosition
  rw [List.findIdx?_append, List.findIdx?_eq_none_iff.2 hpre, List.findIdx?_cons,
    if_pos (Heap.equal_refl h e.key)]
  simp

/-- Resumed after the entry of the `i`-th match, the first match is the next one. -/
theorem find?_after_match (hap : (es.map Entry.key).Pairwise fun a b => h.equal a b = false)
    (hms : es.filter P = ms) {i : Nat} (hi : i < ms.length) :
    ∃ j, keyPosition h es ms[i].key = some j ∧ (es.drop (j + 1)).find? P = ms[i + 1]? := by
  obtain ⟨pre, post, hes, -, hpost⟩ := exists_cut_at_match hms hi
  refine ⟨pre.length, ?_, ?_⟩
  · rw [hes] at hap ⊢
    exact keyPosition_cut hap
  · rw [hes, ← List.head?_drop, ← hpost, List.head?_filter]
    simp

/-- Stopped at the entry of the `i`-th match, the last match before it is the one before. -/
theorem find?_before_match (hap : (es.map Entry.key).Pairwise fun a b => h.equal a b = false)
    (hms : es.filter P = ms) {i : Nat} (hi : i < ms.length) :
    ∃ j, keyPosition h es ms[i].key = some j ∧
      (es.take j).reverse.find? P = (ms.take i).getLast? := by
  obtain ⟨pre, post, hes, hpre, -⟩ := exists_cut_at_match hms hi
  refine ⟨pre.length, ?_, ?_⟩
  · rw [hes] at hap ⊢
    exact keyPosition_cut hap
  · rw [hes, ← hpre, List.getLast?_filter]
    simp

end Cut

/-! ## One search of a map -/

theorem run_indexOf_map_start (w : World) (m : Handle) (v : Value) :
    (indexOf [.map m, v]).run.run w =
      (.ok ((((w.heap.table m).entries.find? fun e => w.heap.equal e.val v).map
        Entry.key).getD .nil), w) := by
  simp only [indexOf, argAt, List.getD_cons_zero, List.getD_cons_succ, List.getD_nil, run_bind,
    run_heap, Value.isNil, if_true, List.drop_zero, run_pure]
  cases (w.heap.table m).entries.find? fun e => w.heap.equal e.val v <;> rfl

theorem run_indexOf_map_after (w : World) (m : Handle) (v : Value) {after : Value}
    (hnil : after ≠ .nil) {j : Nat}
    (hj : keyPosition w.heap (w.heap.table m).entries after = some j) :
    (indexOf [.map m, v, after]).run.run w =
      (.ok (((((w.heap.table m).entries.drop (j + 1)).find? fun e => w.heap.equal e.val v).map
        Entry.key).getD .nil), w) := by
  have hnil' : after.isNil = false := by cases after <;> simp_all [Value.isNil]
  simp only [indexOf, argAt, List.getD_cons_zero, List.getD_cons_succ, run_bind, run_heap, hnil',
    hj, Bool.false_eq_true, if_false, Option.map_some, run_pure]
  cases ((w.heap.table m).entries.drop (j + 1)).find? fun e => w.heap.equal e.val v <;> rfl

theorem run_lastIndexOf_map_start (w : World) (m : Handle) (v : Value) :
    (lastIndexOf [.map m, v]).run.run w =
      (.ok ((((w.heap.table m).entries.reverse.find? fun e => w.heap.equal e.val v).map
        Entry.key).getD .nil), w) := by
  simp only [lastIndexOf, argAt, List.getD_cons_zero, List.getD_cons_succ, List.getD_nil,
    run_bind, run_heap, Value.isNil, if_true, List.take_length, run_pure]
  cases (w.heap.table m).entries.reverse.find? fun e => w.heap.equal e.val v <;> rfl

theorem run_lastIndexOf_map_before (w : World) (m : Handle) (v : Value) {before : Value}
    (hnil : before ≠ .nil) {j : Nat}
    (hj : keyPosition w.heap (w.heap.table m).entries before = some j) :
    (lastIndexOf [.map m, v, before]).run.run w =
      (.ok (((((w.heap.table m).entries.take j).reverse.find? fun e => w.heap.equal e.val v).map
        Entry.key).getD .nil), w) := by
  have hnil' : before.isNil = false := by cases before <;> simp_all [Value.isNil]
  simp only [lastIndexOf, argAt, List.getD_cons_zero, List.getD_cons_succ, run_bind, run_heap,
    hnil', hj, Bool.false_eq_true, if_false, run_pure]
  cases ((w.heap.table m).entries.take j).reverse.find? fun e => w.heap.equal e.val v <;> rfl

/-! ## Walking the matches -/

/-- The keys of a table whose values are deep-equal to a needle, in the order of the entries. -/
def matchingKeys (h : Heap) (t : Table) (needle : Value) : List Value :=
  (t.entries.filter fun e => h.equal e.val needle).map Entry.key

/-- A search walks a list of answers in a world: without an offset it answers the first (nil
for the empty list), resumed from each answer it answers the next one (nil after the last),
and no call changes the world. -/
def Walks (search : List Value → Act Value) (w : World) (recv needle : Value) (ks : List Value) :
    Prop :=
  (search [recv, needle]).run.run w = (.ok (ks.headD .nil), w) ∧
    ∀ i (hi : i < ks.length),
      (search [recv, needle, ks[i]]).run.run w = (.ok (ks.getD (i + 1) .nil), w)

section Walk

variable {w : World} {m : Handle} {v : Value}

theorem indexOf_walks
    (hap : ((w.heap.table m).entries.map Entry.key).Pairwise fun a b => w.heap.equal a b = false)
    (hnil : .nil ∉ matchingKeys w.heap (w.heap.table m) v) :
    Walks indexOf w (.map m) v (matchingKeys w.heap (w.heap.table m) v) := by
  refine ⟨?_, fun i hi => ?_⟩
  · rw [run_indexOf_map_start, ← List.head?_filter]
    unfold matchingKeys
    cases (w.heap.table m).entries.filter (fun e => w.heap.equal e.val v) <;> rfl
  · have hne : (matchingKeys w.heap (w.heap.table m) v)[i] ≠ .nil :=
      fun h => hnil (h ▸ List.getElem_mem hi)
    simp only [matchingKeys, List.length_map, List.getElem_map] at hi hne ⊢
    obtain ⟨j, hj, hfind⟩ := find?_after_match hap rfl hi
    rw [run_indexOf_map_after w m v hne hj, hfind]
    simp

theorem lastIndexOf_walks
    (hap : ((w.heap.table m).entries.map Entry.key).Pairwise fun a b => w.heap.equal a b = false)
    (hnil : .nil ∉ matchingKeys w.heap (w.heap.table m) v) :
    Walks lastIndexOf w (.map m) v (matchingKeys w.heap (w.heap.table m) v).reverse := by
  refine ⟨?_, fun i hi => ?_⟩
  · rw [run_lastIndexOf_map_start, ← List.getLast?_filter]
    rw [matchingKeys, List.headD_eq_head?_getD, List.head?_reverse, List.getLast?_map]
  · -- the `i`-th answer from the end is the match `length - 1 - i` from the front
    have hi' : i < (matchingKeys w.heap (w.heap.table m) v).length := by simpa using hi
    have hne : (matchingKeys w.heap (w.heap.table m) v).reverse[i] ≠ .nil :=
      fun h => hnil (List.mem_reverse.1 (h ▸ List.getElem_mem hi))
    rw [List.getD_eq_getElem?_getD, ← getLast?_take_eq_getElem?_reverse hi']
    simp only [List.getElem_reverse] at hne ⊢
    simp only [matchingKeys, List.length_map, List.getElem_map] at hi' hne ⊢
    obtain ⟨j, hj, hfind⟩ := find?_before_match hap rfl (Nat.sub_one_sub_lt_of_lt hi')
    rw [run_lastIndexOf_map_before w m v hne hj, hfind, ← List.map_take, List.getLast?_map]

/-- In a map built from the empty map by map operations, with nothing reachable from a stored
key changed in between, `indexOf` resumed from each of its answers walks the keys whose values
are deep-equal to the needle in insertion order and then answers nil, and `lastIndexOf` walks
them in reverse; none of those keys may be nil, which as an offset means "from the start". -/
theorem map_search_walks_matching_keys (steps : List (Heap × MapOp)) (h₀ : Heap) (w : World)
    (m : Handle) (v : Value) (hbuilt : w.heap.table m = (Table.empty.run steps).1)
    (hkept : Table.empty.KeysKept h₀ w.heap steps)
    (hnil : .nil ∉ matchingKeys w.heap (w.heap.table m) v) :
    Walks indexOf w (.map m) v (matchingKeys w.heap (w.heap.table m) v) ∧
      Walks lastIndexOf w (.map m) v (matchingKeys w.heap (w.heap.table m) v).reverse := by
  have hap : ((w.heap.table m).entries.map Entry.key).Pairwise
      fun a b => w.heap.equal a b = false := by
    have hk := Table.run_keysApart steps Table.wf_empty
      (by simp [Pairs.KeysApart, Table.pairs, Table.empty]) hkept
    rw [hbuilt]
    simpa [Pairs.KeysApart, Table.pairs, List.map_map, Function.comp_def, Heap.keyEq] using hk
  exact ⟨indexOf_walks hap hnil, lastIndexOf_walks hap hnil⟩

/-- The map `{a: true, b: false, c: true}` searched for `true`. -/
theorem walks_the_true_keys :
    let steps : List (Heap × MapOp) := [({}, .insert (.str "a") (.bool true)),
      ({}, .insert (.str "b") (.bool false)), ({}, .insert (.str "c") (.bool true))]
    let w : World := { heap := { maps := #[(Table.empty.run steps).1] } }
    w.heap.table 0 = (Table.empty.run steps).1 ∧ Table.empty.KeysKept {} w.heap steps ∧
      .nil ∉ matchingKeys w.heap (w.heap.table 0) (.bool true) ∧
      matchingKeys w.heap (w.heap.table 0) (.bool true) = [.str "a", .str "c"] ∧
      Walks indexOf w (.map 0) (.bool true) [.str "a", .str "c"] ∧
      Walks lastIndexOf w (.map 0) (.bool true) [.str "c", .str "a"] := by
  intro steps w
  have hbuilt : w.heap.table 0 = (Table.empty.run steps).1 := rfl
  have hkeys : (Table.empty.run steps).1.keys = [.str "a", .str "b", .str "c"] := rfl
  have hmatch : matchingKeys w.heap (w.heap.table 0) (.bool true) = [.str "a", .str "c"] := rfl
  have hkept : Table.empty.KeysKept {} w.heap steps := by
    refine ⟨fun k _ => Heap.agreeOn_refl _ k, fun k _ => Heap.agreeOn_refl _ k,
      fun k _ => Heap.agreeOn_refl _ k, fun k hk => ?_⟩
    have hk' : k ∈ [Value.str "a", .str "b", .str "c"] := by rw [← hkeys]; exact hk
    simp only [List.mem_cons, List.not_mem_nil, or_false] at hk'
    rcases hk' with rfl | rfl | rfl <;> exact Heap.agreeOn_iff.2 ⟨trivial, by simp [Heap.children]⟩
  have hnil : .nil ∉ matchingKeys w.heap (w.heap.table 0) (.bool true) := by simp [hmatch]
  have hwalk := map_search_walks_matching_keys steps {} w 0 (.bool true) hbuilt hkept hnil
  rw [hmatch] at hwalk
  exact ⟨hbuilt, hkept, hnil, hmatch, hwalk⟩

end Walk

/-- With a nil key among the matches the walk breaks: in the map `{nil: true, b: true}`
searched for `true`, resumed from its first answer nil, `indexOf` starts over and answers nil
again, never reaching `b`. -/
theorem nil_key_restarts_the_walk :
    let steps : List (Heap × MapOp) :=
      [({}, .insert .nil (.bool true)), ({}, .insert (.str "b") (.bool true))]
    let w : World := { heap := { maps := #[(Table.empty.run steps).1] } }
    w.heap.table 0 = (Table.empty.run steps).1 ∧ Table.empty.KeysKept {} w.heap steps ∧
      matchingKeys w.heap (w.heap.table 0) (.bool true) = [.nil, .str "b"] ∧
      (indexOf [.map 0, .bool true, .nil]).run.run w = (.ok .nil, w) ∧
      ¬ Walks indexOf w (.map 0) (.bool true) (matchingKeys w.heap (w.heap.table 0) (.bool true)) := by
  intro steps w
  have hkeys : (Table.empty.run steps).1.keys = [.nil, .str "b"] := rfl
  have hmatch : matchingKeys w.heap (w.heap.table 0) (.bool true) = [.nil, .str "b"] := rfl
  have hkept : Table.empty.KeysKept {} w.heap steps := by
    refine ⟨fun k _ => Heap.agreeOn_refl _ k, fun k _ => Heap.agreeOn_refl _ k, fun k hk => ?_⟩
    have hk' : k ∈ [Value.nil, .str "b"] := by rw [← hkeys]; exact hk
    simp only [List.mem_cons, List.not_mem_nil, or_false] at hk'
    rcases hk' with rfl | rfl <;> exact Heap.agreeOn_iff.2 ⟨trivial, by simp [Heap.children]⟩
  have hagain : (indexOf [.map 0, .bool true, .nil]).run.run w = (.ok .nil, w) := rfl
  refine ⟨rfl, hkept, hmatch, hagain, fun hwalk => ?_⟩
  obtain ⟨_, hstep⟩ := hwalk
  have hnext := hstep 0 (by simp [hmatch])
  simp only [hmatch, List.getElem_cons_zero, hagain] at hnext
  cases hnext

end Intrinsic

end ScriptLib
