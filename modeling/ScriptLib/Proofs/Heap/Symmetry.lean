import ScriptLib.Proofs.Table.Invariant
import Mathlib.Data.List.Zip
import Mathlib.Data.List.Perm.Subperm

/-!
# When deep equality is symmetric

Deep equality compares two maps one way only: every entry of the first must find, under
its key, a value of the second equal to its own. The lookup takes the first stored key
equal to the probe, and equality across kinds goes through canonical text, which is not
transitive: `[1]` equals both `"[1]"` and `["1"]`, which differ. So two maps of the same
size can be equal one way and not the other (`equal_asymmetric_on_crossing_keys`).

Where every map reachable from the two values keeps distinct text keys, as a map filled
with text keys by its own operations does, a lookup finds exactly the entry of the same
key, the keys of two maps of one size match one to one, and deep equality is symmetric
(`equal_comm_of_textKeyed`). The proof swaps the two sides of every open pair.
-/

namespace ScriptLib

/-- The two sides of an open pair exchanged. -/
def OpenPair.swap : OpenPair → OpenPair
  | .lists a b => .lists b a
  | .maps a b => .maps b a

@[simp] theorem OpenPair.swap_swap (p : OpenPair) : p.swap.swap = p := by
  cases p <;> rfl

theorem OpenPair.contains_map_swap {opened : List OpenPair} {p : OpenPair}
    (h : opened.contains p = true) : (opened.map OpenPair.swap).contains p.swap = true := by
  rw [List.contains_iff_mem] at h ⊢
  exact List.mem_map_of_mem h

theorem OpenPair.map_swap_swap (opened : List OpenPair) :
    (opened.map OpenPair.swap).map OpenPair.swap = opened := by
  simp [List.map_map, Function.comp_def]

/-- Equality of numbers is symmetric: both sides are decoded, then compared exactly. -/
theorem Number.eq_comm (x y : Double) : Number.eq x y = Number.eq y x := by
  unfold Number.eq Number.compare?
  cases Binary.ofDouble x with
  | nan => cases Binary.ofDouble y <;> rfl
  | inf a =>
    cases Binary.ofDouble y with
    | nan => rfl
    | inf b => cases a <;> cases b <;> rfl
    | finite => cases a <;> rfl
  | finite a m e =>
    cases Binary.ofDouble y with
    | nan => rfl
    | inf b => cases b <;> rfl
    | finite b n f =>
      rw [Bool.eq_iff_iff]
      simp only [beq_iff_eq, Option.some.injEq, Std.compare_eq_eq_iff_eq, Int.min_comm f e]
      exact ⟨Eq.symm, Eq.symm⟩

/-- A number equals itself unless it is NaN. -/
theorem Number.eq_self_or_isNaN (x : Double) : Number.eq x x = true ∨ Number.isNaN x = true := by
  unfold Number.eq Number.compare? Number.isNaN
  cases Binary.ofDouble x with
  | nan => exact .inr rfl
  | inf a => exact .inl (by simp)
  | finite => exact .inl (by simp)

/-! ## What one comparison of two containers asks -/

namespace Heap

variable {h : Heap}

/-- Two lists are equal when they are the same list, or have one length and either are
already open or have equal elements one level down. -/
theorem equalIn_list_iff {room : Nat} {opened : List OpenPair} {x y : Handle} :
    h.equalIn room opened (.list x) (.list y) = true ↔
      x = y ∨ ((h.items x).size = (h.items y).size ∧
        (opened.contains (.lists x y) = true ∨ ∃ r, room = r + 1 ∧
          ∀ pq ∈ (h.items x).toList.zip (h.items y).toList,
            h.equalIn r (.lists x y :: opened) pq.1 pq.2 = true)) := by
  rw [equalIn.eq_1]
  by_cases hxy : x = y
  · simp [hxy]
  · cases room <;> by_cases hl : (h.items x).size = (h.items y).size <;>
      simp [hxy, hl, List.all_eq_true]

/-- Two maps are equal when they are the same map, or have one size and either are already
open or every entry of the first finds under its key, one level down, an equal value. -/
theorem equalIn_map_iff {room : Nat} {opened : List OpenPair} {x y : Handle} :
    h.equalIn room opened (.map x) (.map y) = true ↔
      x = y ∨ ((h.table x).size = (h.table y).size ∧
        (opened.contains (.maps x y) = true ∨ ∃ r, room = r + 1 ∧
          ∀ e ∈ (h.table x).entries, ∃ w,
            (h.table y).get? (h.equalIn r (.maps x y :: opened)) e.key = some w ∧
              h.equalIn r (.maps x y :: opened) e.val w = true)) := by
  rw [equalIn.eq_2]
  by_cases hxy : x = y
  · simp [hxy]
  · cases room
    · by_cases hs : (h.table x).size = (h.table y).size <;> simp [hxy, hs]
    · rename_i r
      by_cases hs : (h.table x).size = (h.table y).size
      · simp [hxy, hs, List.all_eq_true]
        refine or_congr_right (forall₂_congr fun e _ => ?_)
        split <;> simp_all
      · simp [hxy, hs]

theorem equalIn_str (room : Nat) (opened : List OpenPair) (s k : String) :
    h.equalIn room opened (.str s) (.str k) = (s == k) := by
  rw [equalIn.eq_5]

end Heap

/-! ## Maps with distinct text keys -/

namespace Table

/-- A map whose keys are distinct texts, with its buckets intact. -/
structure TextKeyed (t : Table) : Prop where
  wf : t.WF
  text : ∀ e ∈ t.entries, ∃ s, e.key = .str s
  distinct : t.keys.Nodup

variable {t : Table}

theorem TextKeyed.eq_of_key_eq (ht : t.TextKeyed) {e₁ e₂ : Entry} (h₁ : e₁ ∈ t.entries)
    (h₂ : e₂ ∈ t.entries) (hk : e₁.key = e₂.key) : e₁ = e₂ :=
  List.inj_on_of_nodup_map ht.distinct h₁ h₂ hk

/-- In a map of distinct text keys, a text finds the value stored under that very text,
for any key equality that compares two texts as texts and never equates keys of two
slots. -/
theorem TextKeyed.get?_eq_some_iff (ht : t.TextKeyed) {eq : Value → Value → Bool}
    (hs : RespectsSlots eq) (htext : ∀ s k, eq (.str s) (.str k) = (s == k)) {k : String}
    {w : Value} : t.get? eq (.str k) = some w ↔ ∃ e ∈ t.entries, e.key = .str k ∧ e.val = w := by
  have hkey : ∀ e ∈ t.entries, eq e.key (.str k) = true ↔ e.key = .str k := by
    intro e he
    obtain ⟨s, hs'⟩ := ht.text e he
    rw [hs', htext]
    simp
  rw [get?_eq_first ht.wf (fun e _ h => hs _ _ h)]
  constructor
  · intro hf
    obtain ⟨e, he, rfl⟩ := Option.map_eq_some_iff.1 hf
    have hmem := List.mem_of_find?_eq_some he
    have hp := List.find?_some he
    exact ⟨e, hmem, (hkey e hmem).1 hp, rfl⟩
  · rintro ⟨e, he, hk, rfl⟩
    cases hf : t.entries.find? (fun e => eq e.key (.str k)) with
    | none => exact absurd ((hkey e he).2 hk) (by simpa using List.find?_eq_none.1 hf e he)
    | some e' =>
      have he' := List.mem_of_find?_eq_some hf
      have hp := List.find?_some hf
      have hk' := (hkey e' he').1 hp
      rw [ht.eq_of_key_eq he' he (hk'.trans hk.symm)]
      rfl

/-- The one-way map comparison turned around: when every entry of one map of distinct text
keys finds, under its key, an equal value in another such map of the same size, every
entry of the other finds its partner in the first, provided equality of two values holds
the other way. -/
theorem lookups_swap {ta tb : Table} (hta : ta.TextKeyed) (htb : tb.TextKeyed)
    (hsize : ta.size = tb.size) {eq eq' : Value → Value → Bool} (hs : RespectsSlots eq)
    (hs' : RespectsSlots eq') (htext : ∀ s k, eq (.str s) (.str k) = (s == k))
    (htext' : ∀ s k, eq' (.str s) (.str k) = (s == k))
    (hvals : ∀ e ∈ ta.entries, ∀ e' ∈ tb.entries, eq e.val e'.val = true → eq' e'.val e.val = true)
    (hall : ∀ e ∈ ta.entries, ∃ w, tb.get? eq e.key = some w ∧ eq e.val w = true) :
    ∀ e' ∈ tb.entries, ∃ w, ta.get? eq' e'.key = some w ∧ eq' e'.val w = true := by
  have hmatch : ∀ e ∈ ta.entries, ∃ e' ∈ tb.entries, e'.key = e.key ∧ eq e.val e'.val = true := by
    intro e he
    obtain ⟨w, hw, hval⟩ := hall e he
    obtain ⟨k, hk⟩ := hta.text e he
    rw [hk] at hw
    obtain ⟨e', he', hk', rfl⟩ := (htb.get?_eq_some_iff hs htext).1 hw
    exact ⟨e', he', hk'.trans hk.symm, hval⟩
  have hsub : ta.keys ⊆ tb.keys := by
    intro k hk
    obtain ⟨e, he, rfl⟩ := List.mem_map.1 hk
    obtain ⟨e', he', hkey, -⟩ := hmatch e he
    exact hkey ▸ List.mem_map_of_mem he'
  have hperm : ta.keys.Perm tb.keys := by
    refine (List.subperm_of_subset hta.distinct hsub).perm_of_length_le ?_
    simp only [keys, List.length_map]
    exact Nat.le_of_eq hsize.symm
  intro e' he'
  obtain ⟨e, he, hkey⟩ := List.mem_map.1 (hperm.mem_iff.2 (List.mem_map_of_mem he'))
  obtain ⟨e'', he'', hkey', hval⟩ := hmatch e he
  obtain rfl : e'' = e' := htb.eq_of_key_eq he'' he' (hkey'.trans hkey)
  obtain ⟨k, hk⟩ := htb.text e'' he'
  refine ⟨e.val, ?_, hvals e he e'' he'' hval⟩
  rw [hk]
  exact (hta.get?_eq_some_iff hs' htext').2 ⟨e, he, hkey.trans hk, rfl⟩

end Table

namespace Heap

variable {h : Heap}

/-- Every map reachable from a value keeps distinct text keys. -/
def MapsTextKeyed (h : Heap) (a : Value) : Prop :=
  ∀ m, h.Reaches a (.map m) → (h.table m).TextKeyed

theorem MapsTextKeyed.of_mem {a v : Value} (ha : h.MapsTextKeyed a) (hv : v ∈ h.children a) :
    h.MapsTextKeyed v :=
  fun m hm => ha m (Relation.ReflTransGen.head hv hm)

/-- The condition unfolds one level: the value itself, if a map, and what it holds. -/
theorem mapsTextKeyed_iff {a : Value} :
    h.MapsTextKeyed a ↔
      (∀ m, a = .map m → (h.table m).TextKeyed) ∧ ∀ v ∈ h.children a, h.MapsTextKeyed v := by
  constructor
  · intro ha
    refine ⟨fun m hm => ?_, fun v hv => ha.of_mem hv⟩
    subst hm
    exact ha m Relation.ReflTransGen.refl
  · rintro ⟨hself, hheld⟩ m hm
    rcases Relation.ReflTransGen.cases_head hm with rfl | ⟨c, hac, hcm⟩
    · exact hself m rfl
    · exact hheld c hac m hcm

theorem MapsTextKeyed.table {m : Handle} (hm : h.MapsTextKeyed (.map m)) :
    (h.table m).TextKeyed :=
  hm m Relation.ReflTransGen.refl

theorem respectsSlots_equalIn (room : Nat) (opened : List OpenPair) :
    RespectsSlots (h.equalIn room opened) :=
  fun _ _ heq => slot_eq_of_equalIn heq

/-- One level of the swap: if every comparison one level down also holds with its sides and
open pairs swapped, so does the comparison of the two values. -/
theorem equalIn_swap_of_below {room : Nat} {opened : List OpenPair} {a b : Value}
    (below : ∀ r, room = r + 1 → ∀ (opened : List OpenPair) {p q : Value},
      h.MapsTextKeyed p → h.MapsTextKeyed q → h.equalIn r opened p q = true →
        h.equalIn r (opened.map OpenPair.swap) q p = true)
    (ha : h.MapsTextKeyed a) (hb : h.MapsTextKeyed b) (heq : h.equalIn room opened a b = true) :
    h.equalIn room (opened.map OpenPair.swap) b a = true := by
  rw [equalIn.eq_def] at heq
  split at heq
  case h_1 x y =>
    have hxy : h.equalIn room opened (.list x) (.list y) = true := by
      rw [equalIn.eq_1]
      exact heq
    rw [equalIn_list_iff] at hxy ⊢
    rcases hxy with rfl | ⟨hsize, hopen | ⟨r, rfl, hall⟩⟩
    · exact .inl rfl
    · exact .inr ⟨hsize.symm, .inl (OpenPair.contains_map_swap hopen)⟩
    · refine .inr ⟨hsize.symm, .inr ⟨r, rfl, fun qp hqp => ?_⟩⟩
      -- the pair was compared the other way round one level down
      have hpq : qp.swap ∈ (h.items x).toList.zip (h.items y).toList := by
        rw [← List.zip_swap]
        exact List.mem_map_of_mem hqp
      have hmem := List.of_mem_zip hqp
      exact below r rfl _ (ha.of_mem (mem_children_list hmem.2))
        (hb.of_mem (mem_children_list hmem.1)) (hall _ hpq)
  case h_2 x y =>
    have hxy : h.equalIn room opened (.map x) (.map y) = true := by
      rw [equalIn.eq_2]
      exact heq
    rw [equalIn_map_iff] at hxy ⊢
    rcases hxy with rfl | ⟨hsize, hopen | ⟨r, rfl, hall⟩⟩
    · exact .inl rfl
    · exact .inr ⟨hsize.symm, .inl (OpenPair.contains_map_swap hopen)⟩
    · refine .inr ⟨hsize.symm, .inr ⟨r, rfl, ?_⟩⟩
      exact Table.lookups_swap ha.table hb.table hsize (respectsSlots_equalIn _ _)
        (respectsSlots_equalIn _ _) (equalIn_str _ _) (equalIn_str _ _)
        (fun e he e' he' hv => below r rfl (.maps x y :: opened) (ha.of_mem (val_mem_children he))
          (hb.of_mem (val_mem_children he')) hv) hall
  case h_3 => rw [equalIn.eq_3]
  case h_4 x y =>
    rw [equalIn.eq_4, Number.eq_comm, Bool.and_comm]
    exact heq
  case h_5 x y =>
    rw [equalIn.eq_5, Bool.beq_comm]
    exact heq
  case h_6 hl hm hn hx hs =>
    rw [equalIn.eq_6 _ _ _ _ _ (fun x y hb ha => hl y x ha hb) (fun x y hb ha => hm y x ha hb)
      (fun hb ha => hn ha hb) (fun x y hb ha => hx y x ha hb) (fun x y hb ha => hs y x ha hb),
      Bool.beq_comm]
    exact heq

theorem equalIn_swap (room : Nat) :
    ∀ (opened : List OpenPair) {a b : Value}, h.MapsTextKeyed a → h.MapsTextKeyed b →
      h.equalIn room opened a b = true → h.equalIn room (opened.map OpenPair.swap) b a = true := by
  induction room using room_induction with
  | step room below =>
    intro opened a b ha hb heq
    exact equalIn_swap_of_below below ha hb heq

/-- Deep equality is symmetric, with the open pairs swapped, on values whose reachable maps
keep distinct text keys. -/
theorem equalIn_comm {room : Nat} {opened : List OpenPair} {a b : Value}
    (ha : h.MapsTextKeyed a) (hb : h.MapsTextKeyed b) :
    h.equalIn room opened a b = h.equalIn room (opened.map OpenPair.swap) b a := by
  refine Bool.eq_iff_iff.2 ⟨equalIn_swap room opened ha hb, fun hba => ?_⟩
  have hab := equalIn_swap room (opened.map OpenPair.swap) hb ha hba
  rwa [OpenPair.map_swap_swap] at hab

/-- Deep equality is symmetric on values whose reachable maps all keep distinct text keys
with their buckets intact, as maps filled with text keys by their own operations do. -/
theorem equal_comm_of_textKeyed {a b : Value} (ha : h.MapsTextKeyed a)
    (hb : h.MapsTextKeyed b) : h.equal a b = h.equal b a :=
  equalIn_comm ha hb

/-- Two maps with the same text keys inserted in opposite orders: each keeps distinct text
keys, so they compare alike both ways. -/
theorem text_keyed_maps_compare_alike :
    let t₁ := ((Table.empty.insert ({} : Heap).equal (.str "a") (.bool true)).1.insert
      ({} : Heap).equal (.str "b") .nil).1
    let t₂ := ((Table.empty.insert ({} : Heap).equal (.str "b") .nil).1.insert
      ({} : Heap).equal (.str "a") (.bool true)).1
    let h : Heap := { maps := #[t₁, t₂] }
    h.MapsTextKeyed (.map 0) ∧ h.MapsTextKeyed (.map 1) ∧
      h.equal (.map 0) (.map 1) = h.equal (.map 1) (.map 0) := by
  intro t₁ t₂ h
  have hscalar : ∀ v : Value, (∀ m, v ≠ .map m) → h.children v = [] → h.MapsTextKeyed v :=
    fun v hv hc => mapsTextKeyed_iff.2 ⟨fun m hm => absurd hm (hv m), by simp [hc]⟩
  have hentries₁ : t₁.entries = [⟨0, .str "a", .bool true⟩, ⟨1, .str "b", .nil⟩] := rfl
  have hentries₂ : t₂.entries = [⟨0, .str "b", .nil⟩, ⟨1, .str "a", .bool true⟩] := rfl
  have hwf₁ : t₁.WF := (Table.wf_empty.insert _ _ _).insert _ _ _
  have hwf₂ : t₂.WF := (Table.wf_empty.insert _ _ _).insert _ _ _
  have hk₁ : t₁.TextKeyed := ⟨hwf₁, by simp [hentries₁], by simp [Table.keys, hentries₁]⟩
  have hk₂ : t₂.TextKeyed := ⟨hwf₂, by simp [hentries₂], by simp [Table.keys, hentries₂]⟩
  have hmap₀ : h.MapsTextKeyed (.map 0) := by
    refine mapsTextKeyed_iff.2 ⟨fun m hm => ?_, fun v hv => hscalar v ?_ ?_⟩
    · cases hm
      exact hk₁
    all_goals
      have htable : h.table 0 = t₁ := rfl
      simp only [children, htable, hentries₁] at hv
      simp at hv
      rcases hv with rfl | rfl | rfl | rfl <;> simp [children]
  have hmap₁ : h.MapsTextKeyed (.map 1) := by
    refine mapsTextKeyed_iff.2 ⟨fun m hm => ?_, fun v hv => hscalar v ?_ ?_⟩
    · cases hm
      exact hk₂
    all_goals
      have htable : h.table 1 = t₂ := rfl
      simp only [children, htable, hentries₂] at hv
      simp at hv
      rcases hv with rfl | rfl | rfl | rfl <;> simp [children]
  exact ⟨hmap₀, hmap₁, equal_comm_of_textKeyed hmap₀ hmap₁⟩

/-- The two maps `{"[1]": 1, ["1"]: 2}` and `{[1]: 1, "[\"1\"]": 2}`, each filled by
inserting its pairs in order: the second equals the first, but the first does not equal the
second, because its key `["1"]` finds the key `[1]` of the second first, under the value 1. -/
theorem equal_asymmetric_on_crossing_keys :
    let h₀ : Heap := { lists := #[#[.num (Number.ofInt 1)], #[.str "1"]] }
    let tA := ((Table.empty.insert h₀.equal (.str "[1]") (.num (Number.ofInt 1))).1.insert
      h₀.equal (.list 1) (.num (Number.ofInt 2))).1
    let tB := ((Table.empty.insert h₀.equal (.list 0) (.num (Number.ofInt 1))).1.insert
      h₀.equal (.str "[\"1\"]") (.num (Number.ofInt 2))).1
    let h : Heap := { h₀ with maps := #[tA, tB] }
    h.equal (.map 1) (.map 0) = true ∧ h.equal (.map 0) (.map 1) = false := by
  decide

end Heap

end ScriptLib
