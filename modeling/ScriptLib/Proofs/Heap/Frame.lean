import ScriptLib.Heap.Equality
import ScriptLib.Proofs.Table.Buckets
import Mathlib.Logic.Relation

/-!
# What deep equality reads of the heap

Deep equality, and the canonical text it falls back on, read the heap only at containers
reachable from the two values compared: the elements of a list, the keys and values of a
map, and what those hold in turn. Two heaps that hold the same contents at every container
reachable from two values compare them alike (`equalIn_congr`), with any room left and any
pairs open, and write them alike (`render_congr`).

This is the frame rule for the keys of a map: a mutation that touches nothing reachable
from two keys keeps their comparison.
-/

namespace ScriptLib

namespace Heap

/-- What a value holds directly: the elements of a list, the keys and values of a map. -/
def children (h : Heap) : Value → List Value
  | .list l => (h.items l).toList
  | .map m => (h.table m).entries.flatMap fun e => [e.key, e.val]
  | _ => []

/-- The values reachable from a value: itself, and whatever a reachable value holds. -/
def Reaches (h : Heap) : Value → Value → Prop :=
  Relation.ReflTransGen fun a b => b ∈ h.children a

/-- Two heaps hold the same contents at a container; a scalar holds nothing. -/
def SameAt (h h' : Heap) : Value → Prop
  | .list l => h.items l = h'.items l
  | .map m => h.table m = h'.table m
  | _ => True

/-- Two heaps hold the same contents at every container reachable from a value. -/
def AgreeOn (h h' : Heap) (a : Value) : Prop :=
  ∀ v, h.Reaches a v → SameAt h h' v

theorem agreeOn_refl (h : Heap) (a : Value) : h.AgreeOn h a := by
  intro v _
  cases v <;> trivial

variable {h h' : Heap}

theorem AgreeOn.sameAt {a : Value} (ha : h.AgreeOn h' a) : SameAt h h' a :=
  ha a Relation.ReflTransGen.refl

theorem AgreeOn.of_mem {a v : Value} (ha : h.AgreeOn h' a) (hv : v ∈ h.children a) :
    h.AgreeOn h' v :=
  fun u hu => ha u (Relation.ReflTransGen.head hv hu)

/-- Agreement unfolds one level: the same contents here, and agreement at what is held. -/
theorem agreeOn_iff {a : Value} :
    h.AgreeOn h' a ↔ SameAt h h' a ∧ ∀ v ∈ h.children a, h.AgreeOn h' v := by
  constructor
  · intro ha
    exact ⟨ha.sameAt, fun v hv => ha.of_mem hv⟩
  · rintro ⟨hs, hc⟩ v hv
    rcases Relation.ReflTransGen.cases_head hv with rfl | ⟨c, hac, hcv⟩
    · exact hs
    · exact hc c hac v hcv

theorem mem_children_list {l : Handle} {v : Value} (hv : v ∈ (h.items l).toList) :
    v ∈ h.children (.list l) :=
  hv

theorem key_mem_children {m : Handle} {e : Entry} (he : e ∈ (h.table m).entries) :
    e.key ∈ h.children (.map m) :=
  List.mem_flatMap.2 ⟨e, he, by simp⟩

theorem val_mem_children {m : Handle} {e : Entry} (he : e ∈ (h.table m).entries) :
    e.val ∈ h.children (.map m) :=
  List.mem_flatMap.2 ⟨e, he, by simp⟩

end Heap

/-- A conjunction over a list depends only on the test at the list's members. -/
theorem all_congr_of_mem {α : Type} {l : List α} {f g : α → Bool} (hfg : ∀ a ∈ l, f a = g a) :
    l.all f = l.all g := by
  rw [Bool.eq_iff_iff, List.all_eq_true, List.all_eq_true]
  exact forall₂_congr fun a ha => by rw [hfg a ha]

namespace Table

/-- A lookup applies the key equality only to stored keys against the probe. -/
theorem get?_congr {t : Table} {eq eq' : Value → Value → Bool} {p : Value}
    (h : ∀ e ∈ t.entries, eq e.key p = eq' e.key p) : t.get? eq p = t.get? eq' p := by
  have hfind : t.find? eq p = t.find? eq' p := by
    unfold find?
    congr 1
    funext s
    cases hs : t.entry? s with
    | none => rfl
    | some e => exact h e (mem_of_entry?_eq_some hs).1
  unfold get?
  rw [hfind]

/-- A value found by a lookup is a stored value. -/
theorem get?_mem {t : Table} {eq : Value → Value → Bool} {p w : Value}
    (h : t.get? eq p = some w) : ∃ e ∈ t.entries, e.val = w := by
  unfold get? at h
  split at h
  · obtain ⟨e, he, rfl⟩ := Option.map_eq_some_iff.1 h
    exact ⟨e, (mem_of_entry?_eq_some he).1, rfl⟩
  · cases h

end Table

namespace Heap

variable {h h' : Heap}

/-- Writing a value reads the heap only at the containers reachable from it. -/
theorem render_congr (room : Nat) :
    ∀ (q : Bool) {v : Value}, h.AgreeOn h' v → h.render room q v = h'.render room q v := by
  induction room with
  | zero =>
    intro q v _
    cases v <;> cases q <;> simp [render]
  | succ r ih =>
    intro q v hv
    cases v
    case list l =>
      have hitems : h.items l = h'.items l := hv.sameAt
      have hxs : (h.items l).toList.map (h.render r true) =
          (h'.items l).toList.map (h'.render r true) := by
        rw [← hitems]
        exact List.map_congr_left fun p hp => ih true (hv.of_mem (mem_children_list hp))
      cases q <;> simp only [render, hxs]
    case map m =>
      have htable : h.table m = h'.table m := hv.sameAt
      have hes : (h.table m).entries.map (fun e => h.render r true e.key ++ ": " ++
            h.render r true e.val) =
          (h'.table m).entries.map (fun e => h'.render r true e.key ++ ": " ++
            h'.render r true e.val) := by
        rw [← htable]
        refine List.map_congr_left fun e he => ?_
        rw [ih true (hv.of_mem (key_mem_children he)), ih true (hv.of_mem (val_mem_children he))]
      cases q <;> simp only [render, hes]
    all_goals cases q <;> simp [render]

theorem display_congr {v : Value} (hv : h.AgreeOn h' v) : h.display v = h'.display v :=
  render_congr _ _ hv

/-- Induction on the room a comparison has left: what holds at a room whenever it holds one
pair further down holds at every room. Each statement about deep equality is proved one
level at a time, assuming it below, and this closes the recursion. -/
theorem room_induction {motive : Nat → Prop}
    (step : ∀ room, (∀ r, room = r + 1 → motive r) → motive room) : ∀ room, motive room
  | 0 => step 0 fun r hr => absurd hr (Nat.succ_ne_zero r).symm
  | r + 1 => step (r + 1) fun r' hr => by
    cases Nat.succ_injective hr
    exact room_induction step r

/-- One level of deep equality reads the two heaps alike when the comparisons one level
down do. -/
theorem equalIn_congr_of_below {room : Nat} {opened : List OpenPair} {a b : Value}
    (below : ∀ r, room = r + 1 → ∀ (opened : List OpenPair) {p q : Value},
      h.AgreeOn h' p → h.AgreeOn h' q → h.equalIn r opened p q = h'.equalIn r opened p q)
    (ha : h.AgreeOn h' a) (hb : h.AgreeOn h' b) :
    h.equalIn room opened a b = h'.equalIn room opened a b := by
  conv_lhs => rw [equalIn.eq_def]
  split
  case h_1 x y =>
    have hx : h.items x = h'.items x := ha.sameAt
    have hy : h.items y = h'.items y := hb.sameAt
    rw [equalIn.eq_1]
    dsimp only
    rw [← hx, ← hy]
    cases room with
    | zero => rfl
    | succ r =>
      congr 3
      dsimp only
      refine all_congr_of_mem fun pq hpq => ?_
      have hmem := List.of_mem_zip hpq
      exact below r rfl _ (ha.of_mem hmem.1) (hb.of_mem hmem.2)
  case h_2 x y =>
    have hx : h.table x = h'.table x := ha.sameAt
    have hy : h.table y = h'.table y := hb.sameAt
    rw [equalIn.eq_2]
    dsimp only
    rw [← hx, ← hy]
    cases room with
    | zero => rfl
    | succ r =>
      congr 3
      dsimp only
      refine all_congr_of_mem fun e he => ?_
      have hkey := ha.of_mem (key_mem_children he)
      have hget : (h.table y).get? (h.equalIn r (.maps x y :: opened)) e.key =
          (h.table y).get? (h'.equalIn r (.maps x y :: opened)) e.key :=
        Table.get?_congr fun e' he' => below r rfl _ (hb.of_mem (key_mem_children he')) hkey
      rw [← hget]
      cases hw : (h.table y).get? (h.equalIn r (.maps x y :: opened)) e.key with
      | none => rfl
      | some w =>
        obtain ⟨e', he', rfl⟩ := Table.get?_mem hw
        exact below r rfl _ (ha.of_mem (val_mem_children he)) (hb.of_mem (val_mem_children he'))
  case h_3 => rw [equalIn.eq_3]
  case h_4 => rw [equalIn.eq_4]
  case h_5 => rw [equalIn.eq_5]
  case h_6 hl hm hn hx hs =>
    rw [equalIn.eq_6 _ _ _ _ _ hl hm hn hx hs, display_congr ha, display_congr hb]

/-- Two heaps that agree on everything reachable from two values compare them alike. -/
theorem equalIn_congr (room : Nat) :
    ∀ (opened : List OpenPair) {a b : Value}, h.AgreeOn h' a → h.AgreeOn h' b →
      h.equalIn room opened a b = h'.equalIn room opened a b := by
  induction room using room_induction with
  | step room below =>
    intro opened a b ha hb
    exact equalIn_congr_of_below below ha hb

theorem equal_congr {a b : Value} (ha : h.AgreeOn h' a) (hb : h.AgreeOn h' b) :
    h.equal a b = h'.equal a b :=
  equalIn_congr _ _ ha hb

end Heap

end ScriptLib
