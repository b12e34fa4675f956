import ScriptLib.Proofs.Table.Refinement
import ScriptLib.Proofs.Heap.Frame
import Mathlib.Data.List.Nodup

/-!
# What every map keeps

A table reached from the empty one by any run of operations keeps the shape its bucket
search relies on (`run_empty_invariant`): no bucket is empty, and each holds increasing
insertion numbers; together the buckets hold each entry's number exactly once, in the
bucket of its key's slot; every number is below the next one to be given.

A map also never holds one key twice, in the sense deep equality gives: the key of an older
entry is not equal to the key of a newer one. Keys are compared in the heap of their moment,
so this holds for a run in which nothing reachable from a stored key changes between the
operations (`Table.KeysKept`). It is proved on the association list the table refines,
where a new key is appended only when no stored key equals it, and carried back.
-/

namespace ScriptLib

namespace Table

variable {t : Table}

/-! ## The shape of the buckets -/

/-- A bucket of the list is the bucket of its own slot, when no slot has two. -/
theorem bucketIn_of_mem {bs : List (Int × List Nat)} (hnd : (bs.map Prod.fst).Nodup)
    {b : Int × List Nat} (hb : b ∈ bs) : bucketIn bs b.1 = b.2 := by
  induction bs with
  | nil => cases hb
  | cons c cs ih =>
    rw [List.map_cons, List.nodup_cons] at hnd
    rw [bucketIn_cons]
    rcases List.mem_cons.1 hb with rfl | hb
    · simp
    · have hne : c.1 ≠ b.1 := fun h => hnd.1 (h ▸ List.mem_map_of_mem hb)
      rw [if_neg hne, ih hnd.2 hb]

theorem exists_of_mem_bucketIn {bs : List (Int × List Nat)} {σ : Int} {s : Nat}
    (hs : s ∈ bucketIn bs σ) : ∃ b ∈ bs, b.1 = σ ∧ s ∈ b.2 := by
  unfold bucketIn at hs
  cases hf : bs.find? (·.1 == σ) with
  | none => simp [hf] at hs
  | some b =>
    rw [hf] at hs
    exact ⟨b, List.mem_of_find?_eq_some hf, by simpa using List.find?_some hf, hs⟩

theorem WF.bucket_of_mem (hw : t.WF) {b : Int × List Nat} (hb : b ∈ t.buckets) :
    b.2 = (t.entries.filter (·.key.slot == b.1)).map Entry.seq := by
  rw [← bucketIn_of_mem hw.slots_nodup hb, hw.bucket_eq]

theorem WF.bucket_sorted (hw : t.WF) {b : Int × List Nat} (hb : b ∈ t.buckets) :
    b.2.Pairwise (· < ·) := by
  rw [hw.bucket_of_mem hb, List.pairwise_map]
  exact hw.sorted.filter _

theorem WF.exists_of_mem_bucket (hw : t.WF) {b : Int × List Nat} (hb : b ∈ t.buckets) {s : Nat}
    (hs : s ∈ b.2) : ∃ e ∈ t.entries, e.seq = s ∧ e.key.slot = b.1 := by
  rw [hw.bucket_of_mem hb] at hs
  obtain ⟨e, he, rfl⟩ := List.mem_map.1 hs
  obtain ⟨he, hslot⟩ := List.mem_filter.1 he
  exact ⟨e, he, rfl, by simpa using hslot⟩

/-- An entry's number sits in a bucket exactly when the bucket is that of its key's slot. -/
theorem WF.mem_bucket_iff (hw : t.WF) {e : Entry} (he : e ∈ t.entries) {b : Int × List Nat}
    (hb : b ∈ t.buckets) : e.seq ∈ b.2 ↔ b.1 = e.key.slot := by
  constructor
  · intro hs
    obtain ⟨e', he', hseq, hslot⟩ := hw.exists_of_mem_bucket hb hs
    rw [← hw.eq_of_seq_eq he' he hseq, hslot]
  · intro h
    rw [hw.bucket_of_mem hb]
    exact List.mem_map_of_mem (List.mem_filter.2 ⟨he, by simp [h]⟩)

/-- The buckets together hold each entry's number exactly once. -/
theorem WF.buckets_perm (hw : t.WF) :
    (t.buckets.flatMap Prod.snd).Perm (t.entries.map Entry.seq) := by
  have hseq : (t.entries.map Entry.seq).Nodup :=
    (List.pairwise_map.2 hw.sorted).imp Nat.ne_of_lt
  have hdisjoint : t.buckets.Pairwise fun b c => b.2.Disjoint c.2 := by
    refine (List.pairwise_map.1 hw.slots_nodup).imp_of_mem fun hb hc hne s hs₁ hs₂ => ?_
    obtain ⟨e, he, rfl, hslot⟩ := hw.exists_of_mem_bucket hb hs₁
    exact hne (hslot.symm.trans ((hw.mem_bucket_iff he hc).1 hs₂).symm)
  have hnodup : (t.buckets.flatMap Prod.snd).Nodup :=
    List.nodup_flatMap.2 ⟨fun b hb => (hw.bucket_sorted hb).imp Nat.ne_of_lt, hdisjoint⟩
  refine (List.perm_ext_iff_of_nodup hnodup hseq).2 fun s => ?_
  rw [List.mem_flatMap, List.mem_map]
  constructor
  · rintro ⟨b, hb, hs⟩
    obtain ⟨e, he, rfl, -⟩ := hw.exists_of_mem_bucket hb hs
    exact ⟨e, he, rfl⟩
  · rintro ⟨e, he, rfl⟩
    have hin : e.seq ∈ bucketIn t.buckets e.key.slot := by
      rw [hw.bucket_eq]
      exact List.mem_map_of_mem (List.mem_filter.2 ⟨he, by simp⟩)
    obtain ⟨b, hb, -, hs⟩ := exists_of_mem_bucketIn hin
    exact ⟨b, hb, hs⟩

end Table

/-! ## Keys stay apart -/

namespace Pairs

variable {eq : Value → Value → Bool}

/-- No key of an association list equals a later key. -/
def KeysApart (eq : Value → Value → Bool) (L : Pairs) : Prop :=
  (L.map Prod.fst).Pairwise fun a b => eq a b = false

theorem KeysApart.of_sublist {L L' : Pairs} (hk : KeysApart eq L)
    (hs : (L'.map Prod.fst).Sublist (L.map Prod.fst)) : KeysApart eq L' :=
  List.Pairwise.sublist hs hk

theorem mem_keys_insert {p v b : Value} {L : Pairs}
    (hb : b ∈ (insert eq p v L).1.map Prod.fst) : b ∈ L.map Prod.fst ∨ b = p := by
  induction L with
  | nil => simpa [insert] using hb
  | cons kw rest ih =>
    obtain ⟨k, w⟩ := kw
    unfold insert at hb
    split at hb
    · simp only [List.map_cons, List.mem_cons] at hb
      exact .inl (by simpa using hb)
    · simp only [List.map_cons, List.mem_cons] at hb
      rcases hb with rfl | hb
      · exact .inl (by simp)
      · rcases ih hb with hb | rfl
        · exact .inl (List.mem_cons_of_mem _ hb)
        · exact .inr rfl

/-- A key is appended only when no stored key equals it. -/
theorem keysApart_insert {p v : Value} {L : Pairs} (hk : KeysApart eq L) :
    KeysApart eq (insert eq p v L).1 := by
  induction L with
  | nil => simp [KeysApart, insert]
  | cons kw rest ih =>
    obtain ⟨k, w⟩ := kw
    unfold KeysApart at hk
    rw [List.map_cons, List.pairwise_cons] at hk
    unfold insert
    split
    · simpa [KeysApart] using hk
    · rename_i hne
      unfold KeysApart
      rw [List.map_cons, List.pairwise_cons]
      refine ⟨fun b hb => ?_, ih hk.2⟩
      rcases mem_keys_insert hb with hb | rfl
      · exact hk.1 b hb
      · simpa using hne

theorem keys_erase_sublist {p : Value} :
    ∀ L : Pairs, ((erase eq p L).1.map Prod.fst).Sublist (L.map Prod.fst)
  | [] => List.Sublist.refl _
  | (k, w) :: rest => by
    unfold erase
    split
    · exact List.sublist_cons_self _ _
    · exact (keys_erase_sublist rest).cons_cons _

theorem keys_assign : ∀ (L : Pairs) (vs : List Value), (assign L vs).map Prod.fst = L.map Prod.fst
  | (k, _) :: rest, v :: vs => by simp [assign, keys_assign rest vs]
  | L, [] => by cases L <;> simp [assign]
  | [], _ :: _ => by simp [assign]

/-- Every operation keeps the keys apart: an insertion appends only a key that no stored key
equals, and the others drop keys or keep them. -/
theorem keysApart_step {L : Pairs} (hk : KeysApart eq L) (op : MapOp) :
    KeysApart eq (Pairs.step eq L op).1 := by
  cases op with
  | insert k v => exact keysApart_insert hk
  | remove k => exact hk.of_sublist (keys_erase_sublist L)
  | popNewest =>
    refine hk.of_sublist ?_
    show (L.dropLast.map Prod.fst).Sublist _
    rw [List.map_dropLast]
    exact List.dropLast_sublist _
  | popOldest =>
    refine hk.of_sublist ?_
    show (L.tail.map Prod.fst).Sublist _
    rw [List.map_tail]
    exact List.tail_sublist _
  | assignValues vs =>
    unfold KeysApart at hk ⊢
    rw [step, keys_assign]
    exact hk
  | get k => exact hk
  | contains k => exact hk
  | entries => exact hk
  | keys => exact hk
  | values => exact hk
  | len => exact hk

/-- Keys apart in one heap stay apart in another that agrees on everything reachable from
them. -/
theorem KeysApart.of_agree {h h' : Heap} {L : Pairs} (hk : KeysApart h.keyEq L)
    (hag : ∀ k ∈ L.map Prod.fst, h.AgreeOn h' k) : KeysApart h'.keyEq L := by
  refine List.Pairwise.imp_of_mem (fun ha hb hab => ?_) hk
  rw [Heap.keyEq, ← Heap.equal_congr (hag _ ha) (hag _ hb)]
  exact hab

end Pairs

namespace Table

theorem keys_eq_pairs (t : Table) : t.keys = t.pairs.map Prod.fst := by
  simp [keys, pairs]

/-- Between the operations of a run, and after the last one, nothing reachable from a stored
key changes: each heap agrees with the heap before it on every key the table holds. `h₀` is
the heap before the run and `now` the heap after it. -/
def KeysKept (t : Table) (h₀ now : Heap) : List (Heap × MapOp) → Prop
  | [] => ∀ k ∈ t.keys, h₀.AgreeOn now k
  | (h, op) :: rest => (∀ k ∈ t.keys, h₀.AgreeOn h k) ∧ (t.step h.keyEq op).1.KeysKept h now rest

/-- A run whose keys are kept keeps them apart, in the heap of each moment. -/
theorem run_keysApart (steps : List (Heap × MapOp)) {t : Table} {h₀ now : Heap} (hw : t.WF)
    (hk : Pairs.KeysApart h₀.keyEq t.pairs) (hkept : t.KeysKept h₀ now steps) :
    Pairs.KeysApart now.keyEq (t.run steps).1.pairs := by
  induction steps generalizing t h₀ with
  | nil =>
    rw [KeysKept, keys_eq_pairs] at hkept
    exact hk.of_agree hkept
  | cons s steps ih =>
    obtain ⟨h, op⟩ := s
    obtain ⟨hag, hrest⟩ := hkept
    rw [keys_eq_pairs] at hag
    -- the keys are apart in the heap of this operation, which keeps them apart
    obtain ⟨hw', hp, -⟩ := step_refines hw (respectsSlots_keyEq h) op
    have hk' : Pairs.KeysApart h.keyEq (t.step h.keyEq op).1.pairs := by
      rw [hp]
      exact Pairs.keysApart_step (hk.of_agree hag) op
    exact ih hw' hk' hrest

/-- In entries of increasing numbers, a relation that holds from each entry to every later
one holds from each entry to every entry of a larger number. -/
theorem rel_of_seq_lt {R : Entry → Entry → Prop} :
    ∀ {es : List Entry}, es.Pairwise (fun a b => a.seq < b.seq ∧ R a b) →
      ∀ {a b : Entry}, a ∈ es → b ∈ es → a.seq < b.seq → R a b
  | [], _, _, _, ha, _, _ => by cases ha
  | x :: xs, hs, a, b, ha, hb, hab => by
    rw [List.pairwise_cons] at hs
    rcases List.mem_cons.1 ha with rfl | ha'
    · rcases List.mem_cons.1 hb with rfl | hb'
      · exact absurd hab (Nat.lt_irrefl _)
      · exact (hs.1 b hb').2
    · rcases List.mem_cons.1 hb with rfl | hb'
      · exact absurd (Nat.lt_trans (hs.1 a ha').1 hab) (Nat.lt_irrefl _)
      · exact rel_of_seq_lt hs.2 ha' hb' hab

/-- A map reached from the empty one by any run keeps its bucket structure: (a) no bucket is
empty and each holds increasing insertion numbers; (b) the entries run in increasing numbers,
the buckets together hold each entry's number exactly once, and an entry's number sits in a
bucket exactly when the bucket is that of its key's slot; (c) every number is below the next
one to be given; and (d) when nothing reachable from a stored key changes between the
operations, no older key is deep-equal to a newer one in the heap after the run. -/
theorem run_empty_invariant (steps : List (Heap × MapOp)) (h₀ now : Heap) :
    (∀ b ∈ (Table.empty.run steps).1.buckets, b.2 ≠ [] ∧ b.2.Pairwise (· < ·)) ∧
    ((Table.empty.run steps).1.entries.Pairwise (·.seq < ·.seq) ∧
      ((Table.empty.run steps).1.buckets.flatMap Prod.snd).Perm
        ((Table.empty.run steps).1.entries.map Entry.seq) ∧
      ∀ e ∈ (Table.empty.run steps).1.entries, ∀ b ∈ (Table.empty.run steps).1.buckets,
        e.seq ∈ b.2 ↔ b.1 = e.key.slot) ∧
    (∀ e ∈ (Table.empty.run steps).1.entries, e.seq < (Table.empty.run steps).1.nextSeq) ∧
    (Table.empty.KeysKept h₀ now steps →
      ∀ e₁ ∈ (Table.empty.run steps).1.entries, ∀ e₂ ∈ (Table.empty.run steps).1.entries,
        e₁.seq < e₂.seq → now.equal e₁.key e₂.key = false) := by
  have hw : (Table.empty.run steps).1.WF := (run_refines steps wf_empty).1
  refine ⟨fun b hb => ⟨hw.nonempty b hb, hw.bucket_sorted hb⟩,
    ⟨hw.sorted, hw.buckets_perm, fun e he b hb => hw.mem_bucket_iff he hb⟩, hw.below, ?_⟩
  intro hkept e₁ he₁ e₂ he₂ hlt
  have hk := run_keysApart steps wf_empty (by simp [Pairs.KeysApart, pairs, empty]) hkept
  unfold Pairs.KeysApart at hk
  rw [pairs, List.map_map, List.pairwise_map] at hk
  exact rel_of_seq_lt (hw.sorted.and hk) he₁ he₂ hlt

/-- A run that stores a list and a text that starts like a list as keys, while another list
of the heap changes between the two insertions: the keys are kept, so they stay apart. -/
theorem keys_apart_while_another_list_changes :
    let h₁ : Heap := { lists := #[#[.str "a"], #[.nil]] }
    let h₂ : Heap := { lists := #[#[.str "a"], #[.bool true]] }
    let steps := [(h₁, MapOp.insert (.list 0) .nil), (h₂, MapOp.insert (.str "[x") .nil)]
    Table.empty.KeysKept h₁ h₂ steps ∧
      ∀ e₁ ∈ (Table.empty.run steps).1.entries, ∀ e₂ ∈ (Table.empty.run steps).1.entries,
        e₁.seq < e₂.seq → h₂.equal e₁.key e₂.key = false := by
  intro h₁ h₂ steps
  have hlist : h₁.AgreeOn h₂ (.list 0) := by
    refine Heap.agreeOn_iff.2 ⟨rfl, fun v hv => ?_⟩
    have hv' : v = .str "a" := by simpa [h₁, Heap.children, Heap.items] using hv
    subst hv'
    exact Heap.agreeOn_iff.2 ⟨trivial, fun u hu => by simp [Heap.children] at hu⟩
  have hkeys : (Table.empty.step h₁.keyEq (.insert (.list 0) .nil)).1.keys = [.list 0] := rfl
  have hkept : Table.empty.KeysKept h₁ h₂ steps := by
    refine ⟨by simp [keys, empty], fun k hk => ?_, fun k _ => Heap.agreeOn_refl h₂ k⟩
    rw [hkeys, List.mem_singleton] at hk
    rw [hk]
    exact hlist
  exact ⟨hkept, (run_empty_invariant steps h₁ h₂).2.2.2 hkept⟩

end Table

end ScriptLib
