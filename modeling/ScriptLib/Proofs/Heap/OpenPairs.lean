import ScriptLib.Proofs.Heap.Frame

/-!
# The stack of open pairs

Deep equality keeps the pairs of containers it is inside on a stack shared by the whole
comparison, the key lookups of two maps included: entering a pair checks the stack, pushes
the pair, compares the two containers' contents and pops the pair again, on every way out.
`equalOnStack` is the comparison written that way, the stack threaded as state, and
`withinPair` is its one step on the stack.

A comparison ends with the stack it found, and answers as `equalIn` does with that stack as
its open pairs and the room left below the depth (`run_equalOnStack`). So a comparison
started on the empty stack leaves it empty and answers deep equality
(`run_equalOnStack_empty`): the open pairs can be read as an argument passed down, as
`equalIn` reads them.

The comparison on the stack recurses on fuel, which only bounds its depth: the stack stops
it first (`equalDepth` pairs at most), so with `equalDepth` of fuel it never runs out.
-/

namespace ScriptLib

/-! ## Lookups with a key equality that runs on the stack -/

namespace Table

/-- `find?` with a key equality that runs in a monad. -/
def findM {m : Type → Type} [Monad m] (eq : Value → Value → m Bool) (t : Table)
    (key : Value) : m (Option Nat) :=
  (t.bucket key.slot).findM? fun s =>
    match t.entry? s with
    | some e => eq e.key key
    | none => pure false

/-- `get?` with a key equality that runs in a monad. -/
def getM {m : Type → Type} [Monad m] (eq : Value → Value → m Bool) (t : Table)
    (key : Value) : m (Option Value) := do
  match ← t.findM eq key with
  | some s => pure ((t.entry? s).map Entry.val)
  | none => pure none

end Table

/-! ## Runs that keep their state -/

section Keeping

variable {σ α : Type}

/-- A search whose test answers as a pure one and keeps the state. -/
theorem run_findM (p : α → StateM σ Bool) (q : α → Bool) (s : σ) :
    ∀ l : List α, (∀ x ∈ l, (p x).run s = (q x, s)) → (l.findM? p).run s = (l.find? q, s)
  | [], _ => rfl
  | x :: xs, hp => by
    have hx := hp x List.mem_cons_self
    have hxs := run_findM p q s xs fun y hy => hp y (List.mem_cons_of_mem x hy)
    simp only [List.findM?, List.find?_cons, StateT.run_bind, hx]
    cases q x
    · exact hxs
    · rfl

/-- A conjunction whose test answers as a pure one and keeps the state. -/
theorem run_allM (p : α → StateM σ Bool) (q : α → Bool) (s : σ) :
    ∀ l : List α, (∀ x ∈ l, (p x).run s = (q x, s)) → (l.allM p).run s = (l.all q, s)
  | [], _ => rfl
  | x :: xs, hp => by
    have hx := hp x List.mem_cons_self
    have hxs := run_allM p q s xs fun y hy => hp y (List.mem_cons_of_mem x hy)
    simp only [List.allM, List.all_cons, StateT.run_bind, hx]
    cases q x
    · rfl
    · exact hxs

end Keeping

/-- A lookup whose key equality answers as a pure one on the stored keys and keeps the
state. -/
theorem Table.run_getM {σ : Type} (t : Table) (eq : Value → Value → StateM σ Bool)
    (eq' : Value → Value → Bool) (key : Value) (s : σ)
    (h : ∀ e ∈ t.entries, (eq e.key key).run s = (eq' e.key key, s)) :
    (t.getM eq key).run s = (t.get? eq' key, s) := by
  have hfind : (t.findM eq key).run s = (t.find? eq' key, s) := by
    refine run_findM _ _ s _ fun n _ => ?_
    cases he : t.entry? n with
    | none => rfl
    | some e => exact h e (mem_of_entry?_eq_some he).1
  simp only [getM, StateT.run_bind, hfind, get?]
  cases t.find? eq' key <;> rfl

/-! ## Deep equality on the stack -/

namespace Heap

/-- Runs a comparison with a pair open: a pair already open is equal, a pair past the depth
is unequal, and otherwise the pair is pushed, the comparison run, and the pair popped. -/
def withinPair (p : OpenPair) (compare : StateM (List OpenPair) Bool) :
    StateM (List OpenPair) Bool := do
  let opened ← get
  if opened.contains p then return true
  else if equalDepth ≤ opened.length then return false
  else
    set (p :: opened)
    let r ← compare
    modify List.tail
    return r

/-- Deep equality with the open pairs on a stack; `fuel` bounds the depth. -/
def equalOnStack (h : Heap) : Nat → Value → Value → StateM (List OpenPair) Bool
  | fuel, .list a, .list b =>
    if a = b then pure true
    else
      let xs := (h.items a).toList
      let ys := (h.items b).toList
      if xs.length ≠ ys.length then pure false
      else withinPair (.lists a b) (match fuel with
        | 0 => pure false
        | f + 1 => (xs.zip ys).allM fun (p, q) => equalOnStack h f p q)
  | fuel, .map a, .map b =>
    if a = b then pure true
    else
      let ta := h.table a
      let tb := h.table b
      if ta.size ≠ tb.size then pure false
      else withinPair (.maps a b) (match fuel with
        | 0 => pure false
        | f + 1 => ta.entries.allM fun e => do
          match ← tb.getM (equalOnStack h f) e.key with
          | some w => equalOnStack h f e.val w
          | none => pure false)
  | _, .nil, .nil => pure true
  | _, .num x, .num y => pure (Number.eq x y || (Number.isNaN x && Number.isNaN y))
  | _, .str x, .str y => pure (x == y)
  | _, a, b => pure (h.display a == h.display b)

/-- One pair on the stack: open already, past the depth, or pushed for the comparison and
popped after it, the comparison keeping the stack it was given. -/
theorem run_withinPair {p : OpenPair} {compare : StateM (List OpenPair) Bool}
    {s : List OpenPair} {r : Bool}
    (hc : s.contains p = false → s.length < equalDepth → compare.run (p :: s) = (r, p :: s)) :
    (withinPair p compare).run s =
      (if s.contains p then true else if equalDepth ≤ s.length then false else r, s) := by
  simp only [withinPair, StateT.run_bind, StateT.run_get, pure_bind]
  cases hp : s.contains p
  · by_cases hd : equalDepth ≤ s.length
    · simp only [hd, Bool.false_eq_true, if_false, if_true]
      rfl
    · simp only [hd, Bool.false_eq_true, if_false, StateT.run_bind, StateT.run_set, pure_bind,
        hc hp (by omega), StateT.run_modify]
      rfl
  · simp only [if_true]
    rfl

/-- The answer of a pair on the stack is the answer of a pair open in `equalIn`: the room
below the depth is none once the stack is full, and one pair less with each push. -/
theorem withinPair_answer (c : Bool) (len : Nat) (F : Nat → Bool) :
    (if c then true else if equalDepth ≤ len then false else F (equalDepth - (len + 1))) =
      (if c then true else match equalDepth - len with
        | 0 => false
        | r + 1 => F r) := by
  cases c
  · by_cases hd : equalDepth ≤ len
    · rw [if_pos hd, Nat.sub_eq_zero_of_le hd]
    · rw [if_neg hd, show equalDepth - len = (equalDepth - (len + 1)) + 1 by omega]
  · rfl

/-- A pair on the stack answers as a pair open in `equalIn`, given its comparison, run with
the pair pushed, answers as the contents compared with one pair less of room. -/
theorem run_withinPair_room {p : OpenPair} {compare : StateM (List OpenPair) Bool}
    {s : List OpenPair} (F : Nat → Bool)
    (hc : s.contains p = false → s.length < equalDepth →
      compare.run (p :: s) = (F (equalDepth - (s.length + 1)), p :: s)) :
    (withinPair p compare).run s =
      (if s.contains p then true else match equalDepth - s.length with
        | 0 => false
        | r + 1 => F r, s) :=
  (run_withinPair hc).trans (congrArg (·, s) (withinPair_answer _ _ F))

variable {h : Heap}

/-- One level of the comparison on the stack answers as `equalIn` and keeps the stack when
the comparisons one level down do. -/
theorem run_equalOnStack_of_below {fuel : Nat}
    (below : ∀ f, fuel = f + 1 → ∀ (s : List OpenPair) (a b : Value),
      equalDepth ≤ s.length + f →
        (h.equalOnStack f a b).run s = (h.equalIn (equalDepth - s.length) s a b, s))
    {s : List OpenPair} (a b : Value) (hf : equalDepth ≤ s.length + fuel) :
    (h.equalOnStack fuel a b).run s = (h.equalIn (equalDepth - s.length) s a b, s) := by
  rw [equalOnStack.eq_def]
  split
  case h_1 x y =>
    rw [equalIn.eq_1]
    dsimp only
    by_cases hxy : x = y
    · rw [if_pos hxy, if_pos hxy]
      rfl
    rw [if_neg hxy, if_neg hxy]
    by_cases hl : (h.items x).toList.length = (h.items y).toList.length
    · rw [if_neg (not_not.2 hl), if_neg (not_not.2 hl)]
      refine run_withinPair_room (fun r => ((h.items x).toList.zip (h.items y).toList).all
        fun pq => h.equalIn r (.lists x y :: s) pq.1 pq.2) fun _ hlen => ?_
      obtain ⟨f, rfl⟩ : ∃ f, fuel = f + 1 := ⟨fuel - 1, by omega⟩
      exact run_allM _ _ _ _ fun pq _ => below f rfl _ pq.1 pq.2 (by simp; omega)
    · rw [if_pos hl, if_pos hl]
      rfl
  case h_2 x y =>
    rw [equalIn.eq_2]
    dsimp only
    by_cases hxy : x = y
    · rw [if_pos hxy, if_pos hxy]
      rfl
    rw [if_neg hxy, if_neg hxy]
    by_cases hl : (h.table x).size = (h.table y).size
    · rw [if_neg (not_not.2 hl), if_neg (not_not.2 hl)]
      refine run_withinPair_room (fun r => (h.table x).entries.all fun e =>
          match (h.table y).get? (h.equalIn r (.maps x y :: s)) e.key with
          | some w => h.equalIn r (.maps x y :: s) e.val w
          | none => false) fun _ hlen => ?_
      obtain ⟨f, rfl⟩ : ∃ f, fuel = f + 1 := ⟨fuel - 1, by omega⟩
      have hfuel : equalDepth ≤ (OpenPair.maps x y :: s).length + f := by simp; omega
      refine run_allM _ _ _ _ fun e _ => ?_
      rw [StateT.run_bind, Table.run_getM _ _ _ _ _ fun e' _ =>
        below f rfl _ e'.key e.key hfuel]
      cases (h.table y).get? (h.equalIn (equalDepth - (s.length + 1)) (.maps x y :: s)) e.key
      · rfl
      · exact below f rfl _ _ _ hfuel
    · rw [if_pos hl, if_pos hl]
      rfl
  case h_3 => rw [equalIn.eq_3]; rfl
  case h_4 => rw [equalIn.eq_4]; rfl
  case h_5 => rw [equalIn.eq_5]; rfl
  case h_6 hl hm hn hx hs' =>
    rw [equalIn.eq_6 _ _ _ _ _ hl hm hn hx hs']
    rfl

/-- The comparison on the stack, with fuel to reach the depth, keeps the stack and answers
as `equalIn`. -/
theorem run_equalOnStack (h : Heap) (fuel : Nat) :
    ∀ (s : List OpenPair) (a b : Value), equalDepth ≤ s.length + fuel →
      (h.equalOnStack fuel a b).run s = (h.equalIn (equalDepth - s.length) s a b, s) := by
  -- the induction is on the fuel: each pair pushed passes one less down
  induction fuel using room_induction with
  | step fuel below =>
    intro s a b hf
    exact run_equalOnStack_of_below below a b hf

/-- Deep equality run on the empty stack leaves it empty and answers deep equality. -/
theorem run_equalOnStack_empty (h : Heap) (a b : Value) :
    (h.equalOnStack equalDepth a b).run [] = (h.equal a b, []) :=
  run_equalOnStack h equalDepth [] a b (by simp)

end Heap

end ScriptLib
