import ScriptLib.Table.Basic
import Mathlib.Data.List.Find

/-!
# The buckets of a table

A table answers a probe from the bucket of the probe's slot alone, so it is right only
while its buckets mirror its entries. `Table.WF` says how: the entries run in increasing
insertion numbers, all below the next one; the bucket of a slot lists, in entry order,
the numbers of the entries whose key has that slot; no slot has two buckets and no bucket
is empty. Every operation of a table keeps it (`WF.insert`, `WF.eraseSeq`, `WF.setValues`).

Under `WF`, and for a key equality that never equates keys of two different slots, the
bucket search finds what a scan of all entries for the first key equal to the probe finds
(`find?_eq_first`, `get?_eq_first`).
-/

namespace ScriptLib

namespace Table

/-! ## Lists of buckets -/

/-- The bucket of a slot in a list of buckets: the first with that slot, empty if none. -/
def bucketIn (bs : List (Int × List Nat)) (σ : Int) : List Nat :=
  ((bs.find? (·.1 == σ)).map Prod.snd).getD []

theorem bucket_eq_bucketIn (t : Table) (σ : Int) : t.bucket σ = bucketIn t.buckets σ := by
  unfold bucket bucketIn
  cases h : t.buckets.find? (·.1 == σ) <;> simp

@[simp] theorem bucketIn_nil (σ : Int) : bucketIn [] σ = [] := rfl

theorem bucketIn_cons (b : Int × List Nat) (bs : List (Int × List Nat)) (σ : Int) :
    bucketIn (b :: bs) σ = if b.1 = σ then b.2 else bucketIn bs σ := by
  by_cases h : b.1 = σ <;> simp [bucketIn, h]

theorem bucketIn_addToBucket (σ τ : Int) (s : Nat) : ∀ bs : List (Int × List Nat),
    bucketIn (addToBucket σ s bs) τ = if σ = τ then bucketIn bs τ ++ [s] else bucketIn bs τ
  | [] => by by_cases h : σ = τ <;> simp [addToBucket, bucketIn_cons, h]
  | b :: bs => by
    by_cases hb : b.1 = σ
    · simp only [addToBucket, hb, beq_self_eq_true, ↓reduceIte, bucketIn_cons]
      by_cases h : σ = τ <;> simp [h]
    · have hb' : (b.1 == σ) = false := by simpa using hb
      simp only [addToBucket, hb', Bool.false_eq_true, ↓reduceIte, bucketIn_cons,
        bucketIn_addToBucket σ τ s bs]
      by_cases h : σ = τ
      · subst h; simp [hb]
      · simp [h]

theorem mem_slots_addToBucket (σ x : Int) (s : Nat) : ∀ bs : List (Int × List Nat),
    x ∈ (addToBucket σ s bs).map Prod.fst ↔ x ∈ bs.map Prod.fst ∨ x = σ
  | [] => by simp [addToBucket]
  | b :: bs => by
    by_cases hb : b.1 = σ
    · simp only [addToBucket, hb, beq_self_eq_true, ↓reduceIte, List.map_cons, List.mem_cons,
        List.mem_map]
      constructor
      · rintro (h | h)
        · exact .inl (.inl h)
        · exact .inl (.inr h)
      · rintro ((h | h) | h)
        · exact .inl h
        · exact .inr h
        · exact .inl h
    · have hb' : (b.1 == σ) = false := by simpa using hb
      simp only [addToBucket, hb', Bool.false_eq_true, ↓reduceIte, List.map_cons, List.mem_cons,
        mem_slots_addToBucket σ x s bs]
      exact or_assoc.symm

theorem slots_nodup_addToBucket (σ : Int) (s : Nat) : ∀ bs : List (Int × List Nat),
    (bs.map Prod.fst).Nodup → ((addToBucket σ s bs).map Prod.fst).Nodup
  | [], _ => by simp [addToBucket]
  | b :: bs, hn => by
    simp only [List.map_cons, List.nodup_cons] at hn
    by_cases hb : b.1 = σ
    · simpa [addToBucket, hb] using hn
    · have hb' : (b.1 == σ) = false := by simpa using hb
      simp only [addToBucket, hb', Bool.false_eq_true, ↓reduceIte, List.map_cons, List.nodup_cons]
      refine ⟨?_, slots_nodup_addToBucket σ s bs hn.2⟩
      rw [mem_slots_addToBucket]
      rintro (h | h)
      · exact hn.1 h
      · exact hb h

theorem nonempty_addToBucket (σ : Int) (s : Nat) : ∀ bs : List (Int × List Nat),
    (∀ b ∈ bs, b.2 ≠ []) → ∀ b ∈ addToBucket σ s bs, b.2 ≠ []
  | [], _ => by simp [addToBucket]
  | b :: bs, hne => by
    by_cases hb : b.1 = σ
    · simp only [addToBucket, hb, beq_self_eq_true, ↓reduceIte, List.mem_cons]
      rintro c (rfl | hc)
      · simp
      · exact hne c (List.mem_cons_of_mem _ hc)
    · have hb' : (b.1 == σ) = false := by simpa using hb
      simp only [addToBucket, hb', Bool.false_eq_true, ↓reduceIte, List.mem_cons]
      rintro c (rfl | hc)
      · exact hne c List.mem_cons_self
      · exact nonempty_addToBucket σ s bs (fun c hc => hne c (List.mem_cons_of_mem _ hc)) c hc

theorem bucketIn_dropFromBucket (σ τ : Int) (s : Nat) : ∀ bs : List (Int × List Nat),
    (bs.map Prod.fst).Nodup →
      bucketIn (dropFromBucket σ s bs) τ =
        if σ = τ then (bucketIn bs τ).filter (· != s) else bucketIn bs τ
  | [], _ => by simp [dropFromBucket]
  | b :: bs, hn => by
    simp only [List.map_cons, List.nodup_cons] at hn
    by_cases hb : b.1 = σ
    · -- the first bucket of the slot is the only one: past it the slot has none
      have hnone : bucketIn bs σ = [] := by
        have : ∀ c ∈ bs, ¬ (c.1 == σ) = true := fun c hc h =>
          hn.1 (List.mem_map.2 ⟨c, hc, by simpa [hb] using h⟩)
        simp [bucketIn, List.find?_eq_none.2 this]
      by_cases hempty : (b.2.filter (· != s)).isEmpty
      · have hall : b.2.filter (· != s) = [] := List.isEmpty_iff.1 hempty
        simp only [dropFromBucket, hb, beq_self_eq_true, hempty, ↓reduceIte]
        by_cases h : σ = τ
        · subst h; simp only [bucketIn_cons, hb, ↓reduceIte, hnone, hall]
        · simp [bucketIn_cons, h, hb]
      · simp only [dropFromBucket, hb, beq_self_eq_true, hempty, ↓reduceIte, bucketIn_cons,
          Bool.false_eq_true]
        by_cases h : σ = τ <;> simp [h]
    · have hb' : (b.1 == σ) = false := by simpa using hb
      simp only [dropFromBucket, hb', Bool.false_eq_true, ↓reduceIte, bucketIn_cons,
        bucketIn_dropFromBucket σ τ s bs hn.2]
      by_cases h : σ = τ
      · subst h; simp [hb]
      · simp [h]

theorem slots_sublist_dropFromBucket (σ : Int) (s : Nat) : ∀ bs : List (Int × List Nat),
    ((dropFromBucket σ s bs).map Prod.fst).Sublist (bs.map Prod.fst)
  | [] => by simp [dropFromBucket]
  | b :: bs => by
    by_cases hb : (b.1 == σ) = true
    · by_cases hempty : (b.2.filter (· != s)).isEmpty
      · simp only [dropFromBucket, hb, hempty, ↓reduceIte, List.map_cons]
        exact List.sublist_cons_self _ _
      · simp [dropFromBucket, hb, hempty]
    · simp only [dropFromBucket, hb, Bool.false_eq_true, ↓reduceIte, List.map_cons]
      exact (slots_sublist_dropFromBucket σ s bs).cons_cons _

theorem nonempty_dropFromBucket (σ : Int) (s : Nat) : ∀ bs : List (Int × List Nat),
    (∀ b ∈ bs, b.2 ≠ []) → ∀ b ∈ dropFromBucket σ s bs, b.2 ≠ []
  | [], _ => by simp [dropFromBucket]
  | b :: bs, hne => by
    have hrest : ∀ c ∈ bs, c.2 ≠ [] := fun c hc => hne c (List.mem_cons_of_mem _ hc)
    by_cases hb : (b.1 == σ) = true
    · by_cases hempty : (b.2.filter (· != s)).isEmpty
      · simpa [dropFromBucket, hb, hempty] using hrest
      · simp only [dropFromBucket, hb, hempty, Bool.false_eq_true, ↓reduceIte, List.mem_cons]
        rintro c (rfl | hc)
        · simpa [List.isEmpty_iff] using hempty
        · exact hrest c hc
    · simp only [dropFromBucket, hb, Bool.false_eq_true, ↓reduceIte, List.mem_cons]
      rintro c (rfl | hc)
      · exact hne c List.mem_cons_self
      · exact nonempty_dropFromBucket σ s bs hrest c hc

/-! ## The invariant -/

/-- What keeps the bucket search right. -/
structure WF (t : Table) : Prop where
  /-- insertion numbers increase along the entries -/
  sorted : t.entries.Pairwise (·.seq < ·.seq)
  /-- every insertion number is below the next one to be given -/
  below : ∀ e ∈ t.entries, e.seq < t.nextSeq
  /-- the bucket of a slot lists, in entry order, the numbers of the entries of that slot -/
  bucket_eq : ∀ σ, bucketIn t.buckets σ = (t.entries.filter (·.key.slot == σ)).map Entry.seq
  /-- a slot has at most one bucket -/
  slots_nodup : (t.buckets.map Prod.fst).Nodup
  /-- no bucket is empty -/
  nonempty : ∀ b ∈ t.buckets, b.2 ≠ []

theorem wf_empty : Table.empty.WF :=
  ⟨List.Pairwise.nil, by simp [empty], fun _ => rfl, List.nodup_nil, by simp [empty]⟩

/-- In entries of increasing numbers, each entry is the one its number finds. -/
theorem entry?_of_mem {t : Table} (hs : t.entries.Pairwise (·.seq < ·.seq)) {e : Entry}
    (he : e ∈ t.entries) : t.entry? e.seq = some e := by
  unfold entry?
  generalize t.entries = es at hs he
  induction es with
  | nil => simp at he
  | cons x xs ih =>
    rw [List.pairwise_cons] at hs
    rcases List.mem_cons.1 he with rfl | he
    · simp
    · have hne : x.seq ≠ e.seq := Nat.ne_of_lt (hs.1 e he)
      simp [hne, ih hs.2 he]

theorem mem_of_entry?_eq_some {t : Table} {s : Nat} {e : Entry} (h : t.entry? s = some e) :
    e ∈ t.entries ∧ e.seq = s :=
  ⟨List.mem_of_find?_eq_some h, by simpa using List.find?_some h⟩

/-- Under the invariant the bucket search finds the first entry whose key equals the probe,
as long as the key equality never equates keys of different slots. -/
theorem find?_eq_first {t : Table} (hw : t.WF) {eq : Value → Value → Bool} {p : Value}
    (hslot : ∀ e ∈ t.entries, eq e.key p = true → e.key.slot = p.slot) :
    t.find? eq p = (t.entries.find? fun e => eq e.key p).map Entry.seq := by
  unfold find?
  rw [bucket_eq_bucketIn, hw.bucket_eq, List.find?_map, List.find?_filter]
  congr 1
  apply List.find?_congr
  intro e he
  simp only [Function.comp, entry?_of_mem hw.sorted he]
  by_cases h : eq e.key p = true
  · simp [h, hslot e he h]
  · simp [h]

theorem get?_eq_first {t : Table} (hw : t.WF) {eq : Value → Value → Bool} {p : Value}
    (hslot : ∀ e ∈ t.entries, eq e.key p = true → e.key.slot = p.slot) :
    t.get? eq p = (t.entries.find? fun e => eq e.key p).map Entry.val := by
  unfold get?
  rw [find?_eq_first hw hslot]
  cases h : t.entries.find? (fun e => eq e.key p) with
  | none => rfl
  | some e => simp [entry?_of_mem hw.sorted (List.mem_of_find?_eq_some h)]

/-- Numbers are increasing, so no two entries share one. -/
theorem WF.eq_of_seq_eq {t : Table} (hw : t.WF) {e₁ e₂ : Entry} (h₁ : e₁ ∈ t.entries)
    (h₂ : e₂ ∈ t.entries) (hs : e₁.seq = e₂.seq) : e₁ = e₂ := by
  have hx := entry?_of_mem hw.sorted h₁
  rw [hs, entry?_of_mem hw.sorted h₂] at hx
  exact (Option.some.inj hx).symm

/-! ## Every operation keeps the invariant -/

/-- The number and key of an entry: all that the invariant reads of it. -/
def Entry.skeleton (e : Entry) : Nat × Value := (e.seq, e.key)

/-- A table with the same buckets, next number, and numbers and keys of entries as one
that keeps the invariant keeps it too. -/
theorem WF.of_skeleton {t t' : Table} (hw : t.WF) (hb : t'.buckets = t.buckets)
    (hn : t'.nextSeq = t.nextSeq)
    (he : t'.entries.map Entry.skeleton = t.entries.map Entry.skeleton) : t'.WF := by
  have hseq : t'.entries.map Entry.seq = t.entries.map Entry.seq := by
    simpa [Entry.skeleton, Function.comp_def] using congrArg (List.map Prod.fst) he
  refine ⟨?_, ?_, ?_, ?_, ?_⟩
  · have hp : (t.entries.map Entry.seq).Pairwise (· < ·) := List.pairwise_map.2 hw.sorted
    rw [← hseq] at hp
    exact List.pairwise_map.1 hp
  · intro e he'
    have hm : e.seq ∈ t.entries.map Entry.seq := hseq ▸ List.mem_map_of_mem he'
    obtain ⟨e₀, he₀, hse⟩ := List.mem_map.1 hm
    rw [hn, ← hse]
    exact hw.below e₀ he₀
  · intro σ
    have hf : ∀ u : Table, (u.entries.filter (·.key.slot == σ)).map Entry.seq =
        ((u.entries.map Entry.skeleton).filter (·.2.slot == σ)).map Prod.fst := by
      intro u
      simp [List.filter_map, Function.comp_def, Entry.skeleton]
    rw [hb, hw.bucket_eq σ, hf, hf, he]
  · rw [hb]; exact hw.slots_nodup
  · rw [hb]; exact hw.nonempty

theorem WF.setVal {t : Table} (hw : t.WF) (s : Nat) (v : Value) : (t.setVal s v).WF :=
  hw.of_skeleton rfl rfl (by
    simp only [Table.setVal, List.map_map]
    apply List.map_congr_left
    intro e _
    by_cases h : e.seq = s <;> simp [h, Entry.skeleton])

theorem skeleton_setValues_go : ∀ (es : List Entry) (vs : List Value),
    (setValues.go es vs).map Entry.skeleton = es.map Entry.skeleton
  | e :: es, v :: vs => by simp [setValues.go, Entry.skeleton, skeleton_setValues_go es vs]
  | es, [] => by cases es <;> simp [setValues.go]
  | [], _ :: _ => by simp [setValues.go]

theorem WF.setValues {t : Table} (hw : t.WF) (vs : List Value) : (t.setValues vs).WF :=
  hw.of_skeleton rfl rfl (skeleton_setValues_go t.entries vs)

theorem WF.insert {t : Table} (hw : t.WF) (eq : Value → Value → Bool) (p v : Value) :
    (t.insert eq p v).1.WF := by
  unfold Table.insert
  split
  · split
    · exact hw.setVal _ _
    · exact hw
  · refine ⟨?_, ?_, ?_, ?_, ?_⟩
    · simp only [List.pairwise_append, List.pairwise_singleton, List.mem_singleton, forall_eq]
      exact ⟨hw.sorted, trivial, hw.below⟩
    · simp only [List.mem_append, List.mem_singleton]
      rintro e (he | rfl)
      · exact Nat.lt_succ_of_lt (hw.below e he)
      · exact Nat.lt_succ_self _
    · intro σ
      rw [bucketIn_addToBucket, hw.bucket_eq σ]
      by_cases h : p.slot = σ <;> simp [List.filter_append, h]
    · exact slots_nodup_addToBucket _ _ _ hw.slots_nodup
    · exact nonempty_addToBucket _ _ _ hw.nonempty

theorem WF.eraseSeq {t : Table} (hw : t.WF) (s : Nat) : (t.eraseSeq s).1.WF := by
  unfold Table.eraseSeq
  split
  · rename_i e he
    obtain ⟨hmem, rfl⟩ := mem_of_entry?_eq_some he
    refine ⟨hw.sorted.filter _, fun e' he' => hw.below e' (List.mem_filter.1 he').1, ?_,
      hw.slots_nodup.sublist (slots_sublist_dropFromBucket _ _ _),
      nonempty_dropFromBucket _ _ _ hw.nonempty⟩
    intro σ
    rw [bucketIn_dropFromBucket _ _ _ _ hw.slots_nodup, hw.bucket_eq σ]
    by_cases h : e.key.slot = σ
    · simp only [h, ↓reduceIte, List.filter_map, List.filter_filter]
      congr 1
      apply List.filter_congr
      intro e' _
      simp [Bool.and_comm]
    · simp only [h, ↓reduceIte, List.filter_filter]
      congr 1
      apply List.filter_congr
      intro e' he'
      -- only `e` carries its number, so the filter drops nothing from other slots
      by_cases hs : e'.seq = e.seq
      · obtain rfl := hw.eq_of_seq_eq he' hmem hs
        simp [h]
      · simp [hs]
  · exact hw

theorem WF.remove {t : Table} (hw : t.WF) (eq : Value → Value → Bool) (p : Value) :
    (t.remove eq p).1.WF := by
  unfold Table.remove
  split
  · exact hw.eraseSeq _
  · exact hw

theorem WF.popLast {t : Table} (hw : t.WF) : t.popLast.1.WF := by
  unfold Table.popLast
  split
  · exact hw.eraseSeq _
  · exact hw

theorem WF.popFirst {t : Table} (hw : t.WF) : t.popFirst.1.WF := by
  unfold Table.popFirst
  split
  · exact hw.eraseSeq _
  · exact hw

end Table

end ScriptLib
