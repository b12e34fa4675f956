import ScriptLib.Proofs.Heap.OpenPairs
import ScriptLib.Proofs.Heap.Symmetry
import Mathlib.Data.List.Forall2

/-!
# Deep equality of values built from lists

On values built from scalars and lists, shared or cyclic, deep equality does three things
that its open pairs make it do.

* It leaves the stack of open pairs as it found it, on every path
  (`run_equalOnStack_empty`).
* On acyclic values the rule for an open pair never fires, so deep equality is the plain
  structural recursion with the same shortcut for one list, the same check of lengths, the
  same rules for scalars and texts, and the same cut-off: unequal on entering a pair below
  `equalDepth` nested pairs (`equal_eq_equalPlain`). Along a comparison every open pair
  holds containers strictly above the two values compared, and a pair met again would be a
  container above itself. One acyclic side is enough.
* Where it answers equal, the infinite unfoldings of the two values are equal under the
  same rules (`unfoldEqual_of_equal`): the pairs of a successful comparison, each open pair
  justified by the comparison of its elements that was made below it, form a relation that
  unfolds into itself. Treating a pair met again as equal is sound.
-/

namespace ScriptLib

namespace Heap

variable {h : Heap}

/-! ## Values built from lists, acyclic values -/

/-- A value built from scalars and lists: no map can be reached from it. -/
def ListBuilt (h : Heap) (a : Value) : Prop :=
  ∀ v, h.Reaches a v → ∀ m, v ≠ .map m

/-- One step from a container to what it holds. -/
def Holds (h : Heap) (u v : Value) : Prop := v ∈ h.children u

/-- A value from which no container can be reached that reaches itself again. -/
def Acyclic (h : Heap) (a : Value) : Prop :=
  ∀ v, h.Reaches a v → ¬ Relation.TransGen h.Holds v v

theorem ListBuilt.of_mem {a v : Value} (ha : h.ListBuilt a) (hv : v ∈ h.children a) :
    h.ListBuilt v :=
  fun u hu => ha u (Relation.ReflTransGen.head hv hu)

theorem ListBuilt.ne_map {a : Value} (ha : h.ListBuilt a) (m : Handle) : a ≠ .map m :=
  ha a Relation.ReflTransGen.refl m

theorem Acyclic.of_mem {a v : Value} (ha : h.Acyclic a) (hv : v ∈ h.children a) :
    h.Acyclic v :=
  fun u hu => ha u (Relation.ReflTransGen.head hv hu)

theorem Acyclic.not_above_self {a : Value} (ha : h.Acyclic a) :
    ¬ Relation.TransGen h.Holds a a :=
  ha a Relation.ReflTransGen.refl

section Closed

/-! A set of values closed under what its values hold bounds what they reach; it shows a
value built from lists or acyclic by looking at the set's own values only. -/

variable (S : Value → Prop) (hS : ∀ u v, S u → v ∈ h.children u → S v)
include hS

theorem Reaches.of_closed {a v : Value} (ha : S a) (hv : h.Reaches a v) : S v := by
  induction hv with
  | refl => exact ha
  | tail _ huv ih => exact hS _ _ ih huv

/-- A value in a closed set holding no map is built from lists. -/
theorem listBuilt_of_closed (hmap : ∀ m, ¬ S (.map m)) {a : Value} (ha : S a) :
    h.ListBuilt a :=
  fun _ hv m hvm => hmap m (hvm ▸ Reaches.of_closed S hS ha hv)

/-- A value in a closed set is acyclic when a rank drops from each of the set's containers
to what it holds. -/
theorem acyclic_of_rank (ρ : Value → Nat) (hρ : ∀ u v, S u → v ∈ h.children u → ρ v < ρ u)
    {a : Value} (ha : S a) : h.Acyclic a := by
  -- along a chain from a value of the set, every value stays in it and the rank drops
  have hdown : ∀ {u v}, S u → Relation.TransGen h.Holds u v → S v ∧ ρ v < ρ u := by
    intro u v hu huv
    induction huv with
    | single huv => exact ⟨hS _ _ hu huv, hρ _ _ hu huv⟩
    | tail _ hvw ih => exact ⟨hS _ _ ih.1 hvw, (hρ _ _ ih.1 hvw).trans ih.2⟩
  exact fun v hv hvv => absurd (hdown (Reaches.of_closed S hS ha hv) hvv).2 (Nat.lt_irrefl _)

end Closed

/-! ## The plain recursion -/

/-- Deep equality without open pairs: one list equals itself, lists of different lengths
differ, and otherwise the elements are compared in order, unequal once `room` pairs of
lists are nested; maps likewise by their entries; scalars and texts by the same rules. -/
def equalPlain (h : Heap) : Nat → Value → Value → Bool
  | room, .list a, .list b =>
    if a = b then true
    else
      let xs := (h.items a).toList
      let ys := (h.items b).toList
      if xs.length ≠ ys.length then false
      else match room with
        | 0 => false
        | r + 1 => (xs.zip ys).all fun (p, q) => equalPlain h r p q
  | room, .map a, .map b =>
    if a = b then true
    else
      let ta := h.table a
      let tb := h.table b
      if ta.size ≠ tb.size then false
      else match room with
        | 0 => false
        | r + 1 =>
          ta.entries.all fun e =>
            match tb.get? (equalPlain h r) e.key with
            | some w => equalPlain h r e.val w
            | none => false
  | _, .nil, .nil => true
  | _, .num x, .num y => Number.eq x y || (Number.isNaN x && Number.isNaN y)
  | _, .str x, .str y => x == y
  | _, a, b => h.display a == h.display b

/-- Every open pair of lists holds containers strictly above the two values compared. -/
def OpenAbove (h : Heap) (opened : List OpenPair) (a b : Value) : Prop :=
  ∀ x y, OpenPair.lists x y ∈ opened →
    Relation.TransGen h.Holds (.list x) a ∧ Relation.TransGen h.Holds (.list y) b

theorem openAbove_nil (a b : Value) : h.OpenAbove [] a b :=
  fun _ _ hxy => absurd hxy List.not_mem_nil

/-- Entering a pair of lists keeps every open pair above the elements compared next. -/
theorem OpenAbove.push {opened : List OpenPair} {x y : Handle} {p q : Value}
    (hopen : h.OpenAbove opened (.list x) (.list y)) (hp : p ∈ (h.items x).toList)
    (hq : q ∈ (h.items y).toList) : h.OpenAbove (.lists x y :: opened) p q := by
  intro x' y' hmem
  rcases List.mem_cons.1 hmem with heq | hmem
  · cases heq
    exact ⟨.single hp, .single hq⟩
  · obtain ⟨hx, hy⟩ := hopen x' y' hmem
    exact ⟨hx.tail hp, hy.tail hq⟩

/-- A pair of lists met again would be a container above itself. -/
theorem OpenAbove.not_contains {opened : List OpenPair} {x y : Handle}
    (hopen : h.OpenAbove opened (.list x) (.list y))
    (hcyc : h.Acyclic (.list x) ∨ h.Acyclic (.list y)) :
    opened.contains (.lists x y) = false := by
  rw [Bool.eq_false_iff, ne_eq, List.contains_iff_mem]
  intro hmem
  obtain ⟨hx, hy⟩ := hopen x y hmem
  rcases hcyc with hcyc | hcyc
  · exact hcyc.not_above_self hx
  · exact hcyc.not_above_self hy

/-- One level of deep equality on a value built from lists answers as the plain recursion
when the comparisons one level down do. -/
theorem equalIn_eq_equalPlain_of_below {room : Nat} {opened : List OpenPair} {a b : Value}
    (below : ∀ r, room = r + 1 → ∀ (opened : List OpenPair) (p q : Value), h.ListBuilt p →
      h.Acyclic p ∨ h.Acyclic q → h.OpenAbove opened p q →
        h.equalIn r opened p q = h.equalPlain r p q)
    (ha : h.ListBuilt a) (hcyc : h.Acyclic a ∨ h.Acyclic b) (hopen : h.OpenAbove opened a b) :
    h.equalIn room opened a b = h.equalPlain room a b := by
  rw [equalIn.eq_def]
  split
  case h_1 x y =>
    rw [equalPlain.eq_1]
    dsimp only
    by_cases hxy : x = y
    · rw [if_pos hxy, if_pos hxy]
    rw [if_neg hxy, if_neg hxy]
    by_cases hl : (h.items x).toList.length = (h.items y).toList.length
    · rw [if_neg (not_not.2 hl), if_neg (not_not.2 hl), hopen.not_contains hcyc]
      cases room with
      | zero => rfl
      | succ r =>
        refine all_congr_of_mem fun pq hpq => ?_
        have hmem := List.of_mem_zip hpq
        exact below r rfl _ _ _ (ha.of_mem hmem.1)
          (hcyc.imp (·.of_mem hmem.1) (·.of_mem hmem.2)) (hopen.push hmem.1 hmem.2)
    · rw [if_pos hl, if_pos hl]
  case h_2 x y => exact absurd rfl (ha.ne_map x)
  case h_3 => rw [equalPlain.eq_3]
  case h_4 => rw [equalPlain.eq_4]
  case h_5 => rw [equalPlain.eq_5]
  case h_6 hl hm hn hx hs =>
    rw [equalPlain.eq_6 _ _ _ _ hl hm hn hx hs]

/-- On a value built from lists that is acyclic, or against an acyclic one, deep equality
with any room and open pairs above the two values is the plain recursion. -/
theorem equalIn_eq_equalPlain (room : Nat) :
    ∀ (opened : List OpenPair) (a b : Value), h.ListBuilt a → h.Acyclic a ∨ h.Acyclic b →
      h.OpenAbove opened a b → h.equalIn room opened a b = h.equalPlain room a b := by
  induction room using room_induction with
  | step room below =>
    intro opened a b ha hcyc hopen
    exact equalIn_eq_equalPlain_of_below below ha hcyc hopen

theorem equal_eq_equalPlain {a b : Value} (ha : h.ListBuilt a)
    (hcyc : h.Acyclic a ∨ h.Acyclic b) : h.equal a b = h.equalPlain equalDepth a b :=
  equalIn_eq_equalPlain _ _ a b ha hcyc (openAbove_nil a b)

/-! ## Equal unfoldings -/

/-- One level of the unfoldings of two values under the rules of deep equality, with `R`
relating the parts: lists whose elements are related in order, two nils, numbers equal as
doubles or both NaN, one text, and any other pair with one canonical text. No pair of maps
is related: the relation describes values built from scalars and lists. -/
def Unfolds (h : Heap) (R : Value → Value → Prop) : Value → Value → Prop
  | .list a, .list b => List.Forall₂ R (h.items a).toList (h.items b).toList
  | .map _, .map _ => False
  | .nil, .nil => True
  | .num x, .num y => (Number.eq x y || (Number.isNaN x && Number.isNaN y)) = true
  | .str x, .str y => x = y
  | a, b => h.display a = h.display b

/-- Two values whose infinite unfoldings are equal under the rules of deep equality: some
relation relates them, each of whose pairs unfolds into pairs of it. -/
def UnfoldEqual (h : Heap) (a b : Value) : Prop :=
  ∃ R : Value → Value → Prop, (∀ x y, R x y → h.Unfolds R x y) ∧ R a b

/-- A value built from lists unfolds into itself, given its parts are related to
themselves. -/
theorem unfolds_self {R : Value → Value → Prop} {a : Value} (ha : h.ListBuilt a)
    (hR : ∀ v ∈ h.children a, R v v) : h.Unfolds R a a := by
  cases a with
  | nil => trivial
  | num x =>
    show (Number.eq x x || (Number.isNaN x && Number.isNaN x)) = true
    rcases Number.eq_self_or_isNaN x with hx | hx <;> simp [hx]
  | str s => rfl
  | bool b => rfl
  | list l => exact List.forall₂_same.2 fun v hv => hR v hv
  | map m => exact absurd rfl (ha.ne_map m)

/-- The open pairs a comparison has entered: each pair of lists of one length whose
elements, compared below the pair, were found equal. -/
def Entered (h : Heap) : List OpenPair → Prop
  | [] => True
  | .lists x y :: rest => h.Entered rest ∧ (h.items x).size = (h.items y).size ∧
      ∃ r, ∀ pq ∈ (h.items x).toList.zip (h.items y).toList,
        h.equalIn r (.lists x y :: rest) pq.1 pq.2 = true
  | .maps _ _ :: _ => False

/-- An open pair met again was entered below everything opened after it. -/
theorem Entered.of_mem : ∀ {opened : List OpenPair} {x y : Handle}, h.Entered opened →
    OpenPair.lists x y ∈ opened → ∃ rest, h.Entered (.lists x y :: rest)
  | [], _, _, _, hmem => absurd hmem List.not_mem_nil
  | .lists x' y' :: rest, x, y, hent, hmem => by
    rcases List.mem_cons.1 hmem with heq | hmem
    · cases heq
      exact ⟨rest, hent⟩
    · exact Entered.of_mem hent.1 hmem
  | .maps _ _ :: _, _, _, hent, _ => absurd hent id

/-- The pairs of a successful comparison of values built from lists: a value and itself,
or two values that compare equal below pairs that were entered. -/
def EqualBelow (h : Heap) (a b : Value) : Prop :=
  (a = b ∧ h.ListBuilt a) ∨
    ∃ room opened, h.Entered opened ∧ h.ListBuilt a ∧ h.equalIn room opened a b = true

/-- Elements found equal below a pair, or the pair's own elements, are pairs of a successful
comparison. -/
theorem forall₂_equalBelow {x y : Handle} {r : Nat} {opened : List OpenPair}
    (hx : h.ListBuilt (.list x)) (hent : h.Entered (.lists x y :: opened))
    (hsize : (h.items x).size = (h.items y).size)
    (hall : ∀ pq ∈ (h.items x).toList.zip (h.items y).toList,
      h.equalIn r (.lists x y :: opened) pq.1 pq.2 = true) :
    List.Forall₂ h.EqualBelow (h.items x).toList (h.items y).toList := by
  refine List.forall₂_iff_zip.2 ⟨by simpa using hsize, fun {p q} hpq => ?_⟩
  exact .inr ⟨r, _, hent, hx.of_mem (List.of_mem_zip hpq).1, hall (p, q) hpq⟩

/-- The pairs of a successful comparison unfold into pairs of a successful comparison. -/
theorem unfolds_of_equalBelow {a b : Value} (hab : h.EqualBelow a b) :
    h.Unfolds h.EqualBelow a b := by
  rcases hab with ⟨rfl, ha⟩ | ⟨room, opened, hent, ha, heq⟩
  · exact unfolds_self ha fun v hv => .inl ⟨rfl, ha.of_mem hv⟩
  rw [equalIn.eq_def] at heq
  split at heq
  case h_1 x y =>
    rw [← equalIn.eq_1, equalIn_list_iff] at heq
    rcases heq with rfl | ⟨hsize, hopen | ⟨r, -, hall⟩⟩
    · exact unfolds_self ha fun v hv => .inl ⟨rfl, ha.of_mem hv⟩
    · -- a pair met again: its elements were compared below it when it was entered
      obtain ⟨rest, hrest⟩ := hent.of_mem (List.contains_iff_mem.1 hopen)
      obtain ⟨r, hall⟩ := hrest.2.2
      exact forall₂_equalBelow ha hrest hsize hall
    · exact forall₂_equalBelow ha ⟨hent, hsize, r, hall⟩ hsize hall
  case h_2 x y => exact absurd rfl (ha.ne_map x)
  case h_3 => trivial
  case h_4 => exact heq
  case h_5 => exact beq_iff_eq.1 heq
  case h_6 hl hm hn hx hs =>
    rw [Unfolds.eq_6 _ _ _ _ hl hm hn hx hs]
    exact beq_iff_eq.1 heq

/-- Where deep equality finds a value built from lists equal to another, their infinite
unfoldings are equal under its rules. -/
theorem unfoldEqual_of_equal {a b : Value} (ha : h.ListBuilt a) (heq : h.equal a b = true) :
    h.UnfoldEqual a b :=
  ⟨h.EqualBelow, fun _ _ => unfolds_of_equalBelow, .inr ⟨equalDepth, [], trivial, ha, heq⟩⟩

/-! ## Deep equality on values built from lists -/

/-- Deep equality on a value built from lists, shared or cyclic: run on a stack of open
pairs it leaves the stack empty again; against an acyclic side it is the plain recursion;
and where it answers equal, the unfoldings of the two values are equal under its rules. -/
theorem equal_keeps_stack_and_is_sound_on_lists (a b : Value) (ha : h.ListBuilt a) :
    (h.equalOnStack equalDepth a b).run [] = (h.equal a b, []) ∧
      (h.Acyclic a ∨ h.Acyclic b → h.equal a b = h.equalPlain equalDepth a b) ∧
      (h.equal a b = true → h.UnfoldEqual a b) :=
  ⟨run_equalOnStack_empty h a b, equal_eq_equalPlain ha, unfoldEqual_of_equal ha⟩

/-- Ranks for the acyclic heap below: each list above the lists it holds. -/
def threeListRank : Value → Nat
  | .list 0 => 2
  | .list 1 => 1
  | _ => 0

/-- Two lists sharing one element compare as the plain recursion does; two distinct cycles
of one shape are equal, and unfold alike. -/
theorem shared_and_cyclic_lists_compare_soundly :
    let h₁ : Heap := { lists := #[#[.list 1], #[.str "x"], #[.list 1]] }
    let h₂ : Heap := { lists := #[#[.list 0], #[.list 1]] }
    h₁.equal (.list 0) (.list 2) = h₁.equalPlain equalDepth (.list 0) (.list 2) ∧
      h₂.equal (.list 0) (.list 1) = true ∧ h₂.UnfoldEqual (.list 0) (.list 1) := by
  intro h₁ h₂
  let S₁ : Value → Prop := fun v => v = .list 0 ∨ v = .list 1 ∨ v = .str "x"
  have hS₁ : ∀ u v, S₁ u → v ∈ h₁.children u → S₁ v := by
    rintro u v (rfl | rfl | rfl) hv <;> simp [children, items, h₁, S₁] at hv ⊢ <;> simp [hv]
  have hbuilt₁ : h₁.ListBuilt (.list 0) :=
    listBuilt_of_closed S₁ hS₁ (fun m hm => by simp [S₁] at hm) (.inl rfl)
  have hacyc₁ : h₁.Acyclic (.list 0) := by
    refine acyclic_of_rank S₁ hS₁ threeListRank ?_ (.inl rfl)
    rintro u v (rfl | rfl | rfl) hv <;> simp [children, items, h₁] at hv ⊢ <;> simp [hv, threeListRank]
  let S₂ : Value → Prop := fun v => v = .list 0
  have hbuilt₂ : h₂.ListBuilt (.list 0) := by
    refine listBuilt_of_closed S₂ ?_ (fun m hm => by simp [S₂] at hm) rfl
    rintro u v rfl hv
    simpa [children, items, h₂, S₂] using hv
  have heq₂ : h₂.equal (.list 0) (.list 1) = true := by decide
  exact ⟨(equal_keeps_stack_and_is_sound_on_lists (.list 0) (.list 2) hbuilt₁).2.1 (.inl hacyc₁),
    heq₂, (equal_keeps_stack_and_is_sound_on_lists (.list 0) (.list 1) hbuilt₂).2.2 heq₂⟩

end Heap

end ScriptLib
