import ScriptLib.Proofs.Table.Buckets
import ScriptLib.Proofs.Heap.Slot

/-!
# Maps behave as association lists

A map's table, with its buckets and insertion numbers, answers every operation as an
association list of key–value pairs in insertion order would, where a probe selects the
first pair whose key equals it: `get?` and `contains` read that pair, `insert` overwrites
its value in place or appends a new pair, `remove` deletes it, `popLast` and `popFirst`
take the last and the first pair, and `setValues` gives the first pairs new values.

Each operation compares keys in the heap of its own moment, so containers used as keys may
be mutated through aliases between operations. All the refinement asks of a key equality
is that it never equates keys of different slots (`step_refines`), and deep equality never
does, in any heap (`slot_eq_of_equalIn`). The main statement, `run_empty_eq_pairs`, is
about any run of operations from the empty table, each with its own heap.
-/

namespace ScriptLib

/-- An association list: key–value pairs in insertion order. -/
abbrev Pairs := List (Value × Value)

namespace Pairs

/-- The value of the first pair whose key equals the probe. -/
def lookup (eq : Value → Value → Bool) (p : Value) : Pairs → Option Value
  | [] => none
  | (k, v) :: rest => if eq k p then some v else lookup eq p rest

/-- Overwrites the value of the first pair whose key equals the probe, giving back the old
value; with no such pair, appends a new one. -/
def insert (eq : Value → Value → Bool) (p v : Value) : Pairs → Pairs × Option Value
  | [] => ([(p, v)], none)
  | (k, w) :: rest =>
    if eq k p then ((k, v) :: rest, some w)
    else
      let r := insert eq p v rest
      ((k, w) :: r.1, r.2)

/-- Deletes the first pair whose key equals the probe, giving back its value. -/
def erase (eq : Value → Value → Bool) (p : Value) : Pairs → Pairs × Option Value
  | [] => ([], none)
  | (k, w) :: rest =>
    if eq k p then (rest, some w)
    else
      let r := erase eq p rest
      ((k, w) :: r.1, r.2)

/-- Gives the first pairs, in order, the values of a list; the others keep theirs. -/
def assign : Pairs → List Value → Pairs
  | (k, _) :: rest, v :: vs => (k, v) :: assign rest vs
  | kvs, [] => kvs
  | [], _ :: _ => []

end Pairs

/-- An operation on a map. -/
inductive MapOp where
  | insert (key val : Value)
  | get (key : Value)
  | contains (key : Value)
  | remove (key : Value)
  | popNewest
  | popOldest
  | assignValues (vals : List Value)
  | entries
  | keys
  | values
  | len

/-- What an operation on a map answers. -/
inductive MapReply where
  | done
  | value (v : Option Value)
  | flag (b : Bool)
  | entry (kv : Option (Value × Value))
  | pairs (kvs : List (Value × Value))
  | items (vs : List Value)
  | count (n : Nat)

/-- An operation on a table, under the key equality of its moment. -/
def Table.step (eq : Value → Value → Bool) (t : Table) : MapOp → Table × MapReply
  | .insert k v => let r := t.insert eq k v; (r.1, .value r.2)
  | .get k => (t, .value (t.get? eq k))
  | .contains k => (t, .flag (t.contains eq k))
  | .remove k => let r := t.remove eq k; (r.1, .value r.2)
  | .popNewest => let r := t.popLast; (r.1, .entry r.2)
  | .popOldest => let r := t.popFirst; (r.1, .entry r.2)
  | .assignValues vs => (t.setValues vs, .done)
  | .entries => (t, .pairs t.pairs)
  | .keys => (t, .items t.keys)
  | .values => (t, .items t.values)
  | .len => (t, .count t.size)

/-- The same operation on an association list. -/
def Pairs.step (eq : Value → Value → Bool) (L : Pairs) : MapOp → Pairs × MapReply
  | .insert k v => let r := Pairs.insert eq k v L; (r.1, .value r.2)
  | .get k => (L, .value (Pairs.lookup eq k L))
  | .contains k => (L, .flag (Pairs.lookup eq k L).isSome)
  | .remove k => let r := Pairs.erase eq k L; (r.1, .value r.2)
  | .popNewest => (L.dropLast, .entry L.getLast?)
  | .popOldest => (L.tail, .entry L.head?)
  | .assignValues vs => (Pairs.assign L vs, .done)
  | .entries => (L, .pairs L)
  | .keys => (L, .items (L.map Prod.fst))
  | .values => (L, .items (L.map Prod.snd))
  | .len => (L, .count L.length)

/-- A run of operations on a table, each under the key equality of its own heap: the table
at the end and the replies in order. -/
def Table.run (t : Table) : List (Heap × MapOp) → Table × List MapReply
  | [] => (t, [])
  | (h, op) :: rest =>
    let r := t.step h.keyEq op
    let r' := Table.run r.1 rest
    (r'.1, r.2 :: r'.2)

/-- The same run on an association list. -/
def Pairs.run (L : Pairs) : List (Heap × MapOp) → Pairs × List MapReply
  | [] => (L, [])
  | (h, op) :: rest =>
    let r := Pairs.step h.keyEq L op
    let r' := Pairs.run r.1 rest
    (r'.1, r.2 :: r'.2)

/-! ## First matches on entries -/

namespace Pairs

variable {eq : Value → Value → Bool} {p : Value}

theorem lookup_entries (es : List Entry) :
    lookup eq p (es.map fun e => (e.key, e.val)) = (es.find? fun e => eq e.key p).map Entry.val := by
  induction es with
  | nil => rfl
  | cons e es ih => by_cases h : eq e.key p = true <;> simp [lookup, h, ih]

theorem insert_of_find? {es : List Entry} (hs : es.Pairwise (·.seq < ·.seq)) {e : Entry}
    (hf : es.find? (fun e => eq e.key p) = some e) (v : Value) :
    insert eq p v (es.map fun e => (e.key, e.val)) =
      ((es.map fun e' => if e'.seq == e.seq then { e' with val := v } else e').map
        (fun e => (e.key, e.val)), some e.val) := by
  induction es with
  | nil => simp at hf
  | cons x xs ih =>
    rw [List.pairwise_cons] at hs
    by_cases hx : eq x.key p = true
    · -- the first match is `x`; every later entry has a larger number
      simp only [List.find?_cons, hx, Option.some.injEq] at hf
      subst hf
      have hrest : ∀ y ∈ xs, y.seq ≠ x.seq := fun y hy => Nat.ne_of_gt (hs.1 y hy)
      simp only [List.map_cons, insert, hx, ↓reduceIte, beq_self_eq_true]
      congr 2
      rw [List.map_map]
      apply List.map_congr_left
      intro y hy
      simp [hrest y hy]
    · simp only [List.find?_cons, hx] at hf
      have hne : (x.seq == e.seq) = false := by
        simpa using Nat.ne_of_lt (hs.1 e (List.mem_of_find?_eq_some hf))
      simp only [List.map_cons, insert, hx, Bool.false_eq_true, ↓reduceIte, hne, ih hs.2 hf]

theorem insert_of_find?_none {es : List Entry} (hf : es.find? (fun e => eq e.key p) = none)
    (v : Value) :
    insert eq p v (es.map fun e => (e.key, e.val)) = ((es.map fun e => (e.key, e.val)) ++ [(p, v)], none) := by
  induction es with
  | nil => rfl
  | cons x xs ih =>
    simp only [List.find?_cons] at hf
    split at hf
    · cases hf
    · rename_i hx
      simp [insert, hx, ih hf]

theorem erase_of_find? {es : List Entry} (hs : es.Pairwise (·.seq < ·.seq)) {e : Entry}
    (hf : es.find? (fun e => eq e.key p) = some e) :
    erase eq p (es.map fun e => (e.key, e.val)) =
      ((es.filter (·.seq != e.seq)).map fun e => (e.key, e.val), some e.val) := by
  induction es with
  | nil => simp at hf
  | cons x xs ih =>
    rw [List.pairwise_cons] at hs
    by_cases hx : eq x.key p = true
    · simp only [List.find?_cons, hx, Option.some.injEq] at hf
      subst hf
      have hrest : ∀ y ∈ xs, (y.seq != x.seq) = true := fun y hy => by
        simpa using Nat.ne_of_gt (hs.1 y hy)
      simp only [List.map_cons, erase, hx, ↓reduceIte, List.filter_cons, bne_self_eq_false,
        Bool.false_eq_true, List.filter_eq_self.2 hrest]
    · simp only [List.find?_cons, hx] at hf
      have hne : (x.seq != e.seq) = true := by
        simpa using Nat.ne_of_lt (hs.1 e (List.mem_of_find?_eq_some hf))
      simp only [List.map_cons, erase, hx, Bool.false_eq_true, ↓reduceIte, ih hs.2 hf,
        List.filter_cons, hne]

theorem erase_of_find?_none {es : List Entry} (hf : es.find? (fun e => eq e.key p) = none) :
    erase eq p (es.map fun e => (e.key, e.val)) = (es.map fun e => (e.key, e.val), none) := by
  induction es with
  | nil => rfl
  | cons x xs ih =>
    simp only [List.find?_cons] at hf
    split at hf
    · cases hf
    · rename_i hx
      simp [erase, hx, ih hf]

theorem assign_setValues (es : List Entry) (vs : List Value) :
    assign (es.map fun e => (e.key, e.val)) vs = (Table.setValues.go es vs).map fun e => (e.key, e.val) := by
  induction es generalizing vs with
  | nil => cases vs <;> rfl
  | cons e es ih => cases vs <;> simp [assign, Table.setValues.go, ih]

end Pairs

/-! ## The ends of increasing entries -/

theorem filter_seq_ne_getLast {es : List Entry} (hs : es.Pairwise (·.seq < ·.seq)) {e : Entry}
    (he : es.getLast? = some e) : es.filter (·.seq != e.seq) = es.dropLast := by
  induction es with
  | nil => simp at he
  | cons x xs ih =>
    rw [List.pairwise_cons] at hs
    cases xs with
    | nil =>
      simp only [List.getLast?_singleton, Option.some.injEq] at he
      subst he
      simp
    | cons y ys =>
      rw [List.getLast?_cons_cons] at he
      have hlt : x.seq < e.seq := hs.1 e (List.mem_of_getLast? he)
      have hne : (x.seq != e.seq) = true := by simpa using Nat.ne_of_lt hlt
      rw [List.filter_cons, if_pos hne, ih hs.2 he, List.dropLast_cons_cons]

theorem filter_seq_ne_head {es : List Entry} (hs : es.Pairwise (·.seq < ·.seq)) {e : Entry}
    (he : es.head? = some e) : es.filter (·.seq != e.seq) = es.tail := by
  cases es with
  | nil => simp at he
  | cons x xs =>
    simp only [List.head?_cons, Option.some.injEq] at he
    subst he
    rw [List.pairwise_cons] at hs
    simp only [List.filter_cons, bne_self_eq_false, Bool.false_eq_true, ↓reduceIte, List.tail_cons]
    exact List.filter_eq_self.2 fun y hy => by simpa using Nat.ne_of_gt (hs.1 y hy)

/-! ## Each operation of a table -/

/-- A key equality that equates only keys of one slot. -/
def RespectsSlots (eq : Value → Value → Bool) : Prop :=
  ∀ a b, eq a b = true → a.slot = b.slot

/-- Deep equality, in any heap, respects slots. -/
theorem respectsSlots_keyEq (h : Heap) : RespectsSlots h.keyEq :=
  fun _ _ heq => slot_eq_of_equalIn heq

namespace Table

variable {t : Table} {eq : Value → Value → Bool}

theorem get?_eq_lookup (hw : t.WF) (hs : RespectsSlots eq) (p : Value) :
    t.get? eq p = Pairs.lookup eq p t.pairs := by
  rw [get?_eq_first hw (fun e _ => hs e.key p), pairs, Pairs.lookup_entries]

theorem contains_eq_lookup (hw : t.WF) (hs : RespectsSlots eq) (p : Value) :
    t.contains eq p = (Pairs.lookup eq p t.pairs).isSome := by
  rw [contains, find?_eq_first hw (fun e _ => hs e.key p), pairs, Pairs.lookup_entries,
    Option.isSome_map, Option.isSome_map]

theorem insert_eq_pairs (hw : t.WF) (hs : RespectsSlots eq) (p v : Value) :
    ((t.insert eq p v).1.pairs, (t.insert eq p v).2) = Pairs.insert eq p v t.pairs := by
  have hf := find?_eq_first hw (fun e _ => hs e.key p)
  unfold Table.insert
  rw [hf]
  cases he : t.entries.find? (fun e => eq e.key p) with
  | none => simp [pairs, Pairs.insert_of_find?_none he]
  | some e =>
    simp only [Option.map_some, entry?_of_mem hw.sorted (List.mem_of_find?_eq_some he), pairs]
    rw [Pairs.insert_of_find? hw.sorted he]
    rfl

theorem remove_eq_pairs (hw : t.WF) (hs : RespectsSlots eq) (p : Value) :
    ((t.remove eq p).1.pairs, (t.remove eq p).2) = Pairs.erase eq p t.pairs := by
  have hf := find?_eq_first hw (fun e _ => hs e.key p)
  unfold Table.remove eraseSeq
  rw [hf]
  cases he : t.entries.find? (fun e => eq e.key p) with
  | none => simp [pairs, Pairs.erase_of_find?_none he]
  | some e =>
    simp only [Option.map_some, entry?_of_mem hw.sorted (List.mem_of_find?_eq_some he), pairs]
    rw [Pairs.erase_of_find? hw.sorted he]

theorem popLast_eq_pairs (hw : t.WF) :
    (t.popLast.1.pairs, t.popLast.2) = (t.pairs.dropLast, t.pairs.getLast?) := by
  unfold Table.popLast
  cases he : t.entries.getLast? with
  | none => simp [pairs, List.getLast?_eq_none_iff.1 he]
  | some e =>
    simp only [eraseSeq, entry?_of_mem hw.sorted (List.mem_of_getLast? he), pairs]
    rw [filter_seq_ne_getLast hw.sorted he, List.map_dropLast, List.getLast?_map, he]
    rfl

theorem popFirst_eq_pairs (hw : t.WF) :
    (t.popFirst.1.pairs, t.popFirst.2) = (t.pairs.tail, t.pairs.head?) := by
  unfold Table.popFirst
  cases he : t.entries.head? with
  | none => simp [pairs, List.head?_eq_none_iff.1 he]
  | some e =>
    simp only [eraseSeq, entry?_of_mem hw.sorted (List.mem_of_head? he), pairs]
    rw [filter_seq_ne_head hw.sorted he, List.map_tail, List.head?_map, he]
    rfl

theorem setValues_pairs (vs : List Value) : (t.setValues vs).pairs = Pairs.assign t.pairs vs := by
  rw [pairs, pairs, Pairs.assign_setValues]
  rfl

/-- One operation: the table keeps its invariant, its pairs become those of the association
list after the same operation, and both answer alike. -/
theorem step_refines (hw : t.WF) (hs : RespectsSlots eq) (op : MapOp) :
    (t.step eq op).1.WF ∧ (t.step eq op).1.pairs = (Pairs.step eq t.pairs op).1 ∧
      (t.step eq op).2 = (Pairs.step eq t.pairs op).2 := by
  cases op with
  | insert k v =>
    have h := insert_eq_pairs hw hs k v
    have hr : (t.insert eq k v).2 = (Pairs.insert eq k v t.pairs).2 := congrArg Prod.snd h
    exact ⟨hw.insert eq k v, congrArg Prod.fst h, by simp only [step, Pairs.step, hr]⟩
  | get k => exact ⟨hw, rfl, by simp only [step, Pairs.step, get?_eq_lookup hw hs]⟩
  | contains k => exact ⟨hw, rfl, by simp only [step, Pairs.step, contains_eq_lookup hw hs]⟩
  | remove k =>
    have h := remove_eq_pairs hw hs k
    have hr : (t.remove eq k).2 = (Pairs.erase eq k t.pairs).2 := congrArg Prod.snd h
    exact ⟨hw.remove eq k, congrArg Prod.fst h, by simp only [step, Pairs.step, hr]⟩
  | popNewest =>
    have h := popLast_eq_pairs hw
    have hr : t.popLast.2 = t.pairs.getLast? := congrArg Prod.snd h
    exact ⟨hw.popLast, congrArg Prod.fst h, by simp only [step, Pairs.step, hr]⟩
  | popOldest =>
    have h := popFirst_eq_pairs hw
    have hr : t.popFirst.2 = t.pairs.head? := congrArg Prod.snd h
    exact ⟨hw.popFirst, congrArg Prod.fst h, by simp only [step, Pairs.step, hr]⟩
  | assignValues vs => exact ⟨hw.setValues vs, setValues_pairs vs, rfl⟩
  | entries => exact ⟨hw, rfl, rfl⟩
  | keys => exact ⟨hw, rfl, by simp [step, Pairs.step, keys, pairs]⟩
  | values => exact ⟨hw, rfl, by simp [step, Pairs.step, values, pairs]⟩
  | len => exact ⟨hw, rfl, by simp [step, Pairs.step, size, pairs]⟩

/-- A whole run, by induction on its operations from `step_refines`. -/
theorem run_refines (steps : List (Heap × MapOp)) (hw : t.WF) :
    (t.run steps).1.WF ∧ (t.run steps).1.pairs = (Pairs.run t.pairs steps).1 ∧
      (t.run steps).2 = (Pairs.run t.pairs steps).2 := by
  induction steps generalizing t with
  | nil => exact ⟨hw, rfl, rfl⟩
  | cons s steps ih =>
    obtain ⟨h, op⟩ := s
    obtain ⟨hw', hp, hr⟩ := step_refines hw (respectsSlots_keyEq h) op
    obtain ⟨ih₁, ih₂, ih₃⟩ := ih hw'
    simp only [run, Pairs.run]
    rw [← hp, ← hr]
    exact ⟨ih₁, ih₂, by rw [ih₃]⟩

/-- A map made empty, or collected from pairs by inserting them in order, answers any run of
operations as the association list of its pairs in insertion order does, a probe selecting
the first pair whose key is deep-equal to it in the heap of the moment; after every run its
pairs are those of the list. -/
theorem run_empty_eq_pairs (steps : List (Heap × MapOp)) :
    (Table.empty.run steps).2 = (Pairs.run [] steps).2 ∧
      (Table.empty.run steps).1.pairs = (Pairs.run [] steps).1 := by
  obtain ⟨-, hp, hr⟩ := run_refines steps wf_empty
  exact ⟨hr, hp⟩

end Table

end ScriptLib
