import ScriptLib.Proofs.Intrinsic.Failure
import Mathlib

/-!
# Offsets as 64-bit words

An offset argument is a number truncated to a 64-bit word, saturating at both ends. A
negative offset is resolved against the length of the sequence, which never leaves the
words. The searches that look just after an offset (`indexOf`, and `lastIndexOf` on a list)
then step once past the resolved offset in word arithmetic (`Index.next`): below the
largest word the step is exact, and at the largest word, the truncation of every number
from `2 ^ 63` up, it wraps around to the smallest.
-/

namespace ScriptLib

namespace Index

/-- A 64-bit word: an integer in `[-2 ^ 63, 2 ^ 63)`. -/
def IsWord (z : Int) : Prop :=
  -2 ^ 63 ≤ z ∧ z < 2 ^ 63

instance (z : Int) : Decidable (IsWord z) :=
  inferInstanceAs (Decidable (_ ∧ _))

/-- Wrapping into the words leaves exactly the words unchanged. -/
theorem wrap64_eq_self_iff (z : Int) : Number.wrap64 z = z ↔ IsWord z := by
  rw [Number.wrap64, Int.bmod_eq_iff (by decide), IsWord, Int.sub_self]
  simp only [Int.dvd_zero, and_true]
  omega

/-- Below the largest word the step past an index is exact. -/
theorem next_eq_add_one {i : Int} (hlo : -2 ^ 63 ≤ i) (hhi : i < 2 ^ 63 - 1) :
    next i = i + 1 :=
  (wrap64_eq_self_iff _).2 ⟨by omega, by omega⟩

/-- Past the largest word the step wraps around to the smallest. -/
theorem next_max : next (2 ^ 63 - 1) = -2 ^ 63 := by
  decide

/-- Resolving a word against any length gives a word, and the largest word only from
itself. -/
theorem resolve_isWord {b : Int} (hb : IsWord b) (n : Nat) :
    IsWord (resolve b n) ∧ (resolve b n < 2 ^ 63 - 1 ↔ b < 2 ^ 63 - 1) := by
  unfold resolve IsWord at *
  unfold maxLength
  split <;> omega

end Index

namespace Intrinsic

theorem clampIndex_le (i : Int) (n : Nat) : clampIndex i n ≤ n := by
  unfold clampIndex
  split <;> omega

theorem startAfter_le (after : Value) (n : Nat) : startAfter after n ≤ n := by
  unfold startAfter
  split
  · exact clampIndex_le _ _
  · exact Nat.zero_le _

/-- Clamping the position after `r` is clamping `r` and stepping once, within the length. -/
theorem clampIndex_add_one {r : Int} (hr : 0 ≤ r) (n : Nat) :
    clampIndex (r + 1) n = min (clampIndex r n + 1) n := by
  unfold clampIndex
  split <;> split <;> omega

/-- An offset is a 64-bit word. -/
theorem isWord_of_offsetOf {v : Value} {a : Int} (h : offsetOf v = some a) : Index.IsWord a := by
  obtain ⟨x, -, rfl⟩ := Option.map_eq_some_iff.1 h
  unfold Number.toInt64 Number.saturate Index.IsWord
  split
  · omega
  · split <;> omega
  · omega

/-- Below the largest word, a backward search of a list ends one past where a backward
search of a text may last start. -/
theorem endAfter_eq {v : Value} (hv : ∀ b, offsetOf v = some b → b < 2 ^ 63 - 1) (n : Nat) :
    endAfter v n = (lastStart v n).map fun b => min (b + 1) n := by
  unfold endAfter lastStart
  cases ho : offsetOf v with
  | none => simp
  | some b =>
    dsimp only
    split
    · rfl
    · rename_i hr
      -- the resolved offset is below the largest word, so the step past it is exact
      have hword := Index.resolve_isWord (isWord_of_offsetOf ho) n
      rw [Index.next_eq_add_one hword.1.1 (hword.2.2 (hv b ho)), Option.map_some,
        clampIndex_add_one (Int.not_lt.1 hr)]

theorem endAfter_le (before : Value) (n : Nat) {e : Nat} (h : endAfter before n = some e) :
    e ≤ n := by
  unfold endAfter at h
  split at h
  · exact Nat.le_of_eq (Option.some.inj h).symm
  · dsimp only at h
    split at h
    · cases h
    · exact Option.some.inj h ▸ clampIndex_le _ _

theorem lastStart_le (before : Value) (n : Nat) {b : Nat} (h : lastStart before n = some b) :
    b ≤ n := by
  unfold lastStart at h
  split at h
  · exact Nat.le_of_eq (Option.some.inj h).symm
  · dsimp only at h
    split at h
    · cases h
    · exact Option.some.inj h ▸ clampIndex_le _ _

/-- A slice starts no later than it ends, and ends within the sequence. -/
theorem sliceBounds_le (start stop : Int) (n : Nat) :
    (sliceBounds start stop n).1 ≤ (sliceBounds start stop n).2 ∧
      (sliceBounds start stop n).2 ≤ n := by
  unfold sliceBounds
  dsimp only
  have ha := clampIndex_le (Index.resolve start n) n
  have hb := clampIndex_le (Index.resolve stop n) n
  split <;> omega

theorem Index.normalize_lt {a : Int} {n k : Nat} (h : Index.normalize a n = some k) : k < n := by
  unfold Index.normalize at h
  obtain ⟨⟨-, h0, hlt⟩, hk⟩ := Option.ite_none_right_eq_some.1 h
  rw [← Option.some.inj hk]
  generalize (if a < 0 then (n : Int) + a else a) = j at h0 hlt ⊢
  omega

theorem intArg_cons (x : Value) (args : List Value) (i : Nat) :
    intArg (x :: args) (i + 1) = intArg args i := rfl

/-! ## Splicing a list -/

section Splice

open Act

variable {l : Handle} {args : List Value} {w w' : World} {r : Value}

/-- A list insertion that succeeds splices the value in at a position within the list, the
resolved index clamped to the length, and changes nothing else. -/
theorem insert_list_splices (h : (insert (.list l :: args)).run.run w = (.ok r, w')) :
    ∃ k ≤ (w.heap.items l).size, w' = { w with
      heap := w.heap.setItems l ((w.heap.items l).toList.insertIdx k (argAt args 1)).toArray } := by
  unfold insert at h
  simp only [argAt, List.getD_cons_zero, List.getD_cons_succ] at h ⊢
  rcases hidx : (intArg (Value.list l :: args) 1).run.run w with ⟨_ | index, w₁⟩
  · rw [run_bind_error hidx] at h
    cases h
  · rw [run_bind_ok hidx] at h
    have hw₁ : w₁ = w := (check_intArg _ 1).keeps w _ w₁ hidx
    subst hw₁
    refine ⟨clampIndex (Index.resolve index (w₁.heap.items l).size) (w₁.heap.items l).size,
      clampIndex_le _ _, ?_⟩
    rw [run_heap_bind, run_bind, run_ofResult] at h
    split at h
    · rename_i hcheck
      obtain ⟨-, rfl⟩ := Prod.mk.inj hcheck
      split at h
      · split at h
        · simp only [run_bind, run_fail] at h
          cases h
        · simp only [run_bind, run_modifyHeap, run_pure] at h
          exact (Prod.mk.inj h).2.symm
      · simp only [run_bind, run_modifyHeap, run_pure] at h
        exact (Prod.mk.inj h).2.symm
    · cases h

/-- A list removal that succeeds takes out the element at a position within the list, and
changes nothing else. -/
theorem remove_list_deletes (h : (remove (.list l :: args)).run.run w = (.ok r, w')) :
    ∃ k < (w.heap.items l).size, w' =
      { w with heap := w.heap.setItems l ((w.heap.items l).toList.eraseIdx k).toArray } := by
  unfold remove at h
  simp only [argAt, List.getD_cons_zero, List.getD_cons_succ] at h
  split at h
  · simp only [run_bind, run_fail] at h
    cases h
  · rcases hidx : (intArg (Value.list l :: args) 1).run.run w with ⟨_ | index, w₁⟩
    · rw [run_bind_error hidx] at h
      cases h
    · rw [run_bind_ok hidx] at h
      have hw₁ : w₁ = w := (check_intArg _ 1).keeps w _ w₁ hidx
      subst hw₁
      rw [run_heap_bind] at h
      split at h
      · rename_i k hk
        simp only [run_bind, run_modifyHeap, run_pure] at h
        exact ⟨k, Index.normalize_lt hk, (Prod.mk.inj h).2.symm⟩
      · simp only [run_fail] at h
        cases h

end Splice

/-! ## The index arithmetic -/

/-- The step past a resolved offset stays a 64-bit word exactly when the offset is below the
largest word. -/
theorem isWord_resolve_add_one_iff {a : Int} (ha : Index.IsWord a) (n : Nat) :
    Index.IsWord (Index.resolve a n + 1) ↔ a < 2 ^ 63 - 1 := by
  have hr := Index.resolve_isWord ha n
  unfold Index.IsWord at hr ⊢
  omega

/-- The index arithmetic of the sequence functions stays within 64-bit words for every offset
below the largest word, and every position they use lies within the sequence.

Every offset is a word, and resolving it against a length keeps it one; when the offset is
below the largest word, the step past the resolved offset, which `indexOf` and `lastIndexOf`
on a list take, stays a word and is exact, so a backward search of a list ends one past
where one of a text may last start. For every offset the searches start and end within the
sequence, a slice starts no later than it ends and ends within it, `hasIndex` and `remove`
only name positions before the end, and a list insertion or removal that succeeds splices
the list at such a position. -/
theorem offset_arithmetic_within_words_and_bounds (v : Value) (n : Nat)
    (hv : ∀ a, offsetOf v = some a → a < 2 ^ 63 - 1) :
    (∀ a, offsetOf v = some a →
      Index.IsWord a ∧ Index.IsWord (Index.resolve a n) ∧ Index.IsWord (Index.resolve a n + 1) ∧
        Index.next (Index.resolve a n) = Index.resolve a n + 1) ∧
    (startAfter v n ≤ n ∧ (∀ e, endAfter v n = some e → e ≤ n) ∧
      (∀ b, lastStart v n = some b → b ≤ n) ∧
      endAfter v n = (lastStart v n).map fun b => min (b + 1) n) ∧
    (∀ (start stop : Int),
      (sliceBounds start stop n).1 ≤ (sliceBounds start stop n).2 ∧
        (sliceBounds start stop n).2 ≤ n) ∧
    (∀ (a : Int) (k : Nat), Index.normalize a n = some k → k < n) ∧
    (∀ (l : Handle) (args : List Value) (w w' : World) (r : Value),
      (insert (.list l :: args)).run.run w = (.ok r, w') →
        ∃ k ≤ (w.heap.items l).size, w' = { w with
          heap := w.heap.setItems l ((w.heap.items l).toList.insertIdx k (argAt args 1)).toArray }) ∧
    (∀ (l : Handle) (args : List Value) (w w' : World) (r : Value),
      (remove (.list l :: args)).run.run w = (.ok r, w') →
        ∃ k < (w.heap.items l).size, w' = { w with
          heap := w.heap.setItems l ((w.heap.items l).toList.eraseIdx k).toArray }) := by
  refine ⟨fun a ha => ?_, ⟨startAfter_le v n, fun _ => endAfter_le v n,
    fun _ => lastStart_le v n, endAfter_eq hv n⟩, fun start stop => sliceBounds_le start stop n,
    fun _ _ => Index.normalize_lt, fun _ _ _ _ _ => insert_list_splices,
    fun _ _ _ _ _ => remove_list_deletes⟩
  have hword := isWord_of_offsetOf ha
  have hresolved := Index.resolve_isWord hword n
  exact ⟨hword, hresolved.1, (isWord_resolve_add_one_iff hword n).2 (hv a ha),
    Index.next_eq_add_one hresolved.1.1 (hresolved.2.2 (hv a ha))⟩

/-- An offset of `-∞` truncates to the smallest word, and the step past it, resolved against
a length of 3, is exact. -/
theorem offset_at_minus_infinity_steps_exactly :
    (∀ a, offsetOf (.num (Binary.infinity true)) = some a → a < 2 ^ 63 - 1) ∧
      Index.next (Index.resolve (-2 ^ 63) 3) = Index.resolve (-2 ^ 63) 3 + 1 := by
  have hoff : offsetOf (.num (Binary.infinity true)) = some (-2 ^ 63) := by decide
  have hv : ∀ a, offsetOf (.num (Binary.infinity true)) = some a → a < 2 ^ 63 - 1 := by
    intro a ha
    rw [hoff, Option.some.injEq] at ha
    subst ha
    decide
  exact ⟨hv, ((offset_arithmetic_within_words_and_bounds _ 3 hv).1 (-2 ^ 63) hoff).2.2.2⟩

/-- An infinite offset truncates to the largest word, and the step past it leaves the words:
`indexOf` on `[true, false]` looking for `true` after `+∞` wraps around to the front and
finds the first element, where no element lies after the offset. -/
theorem search_after_infinity_wraps_to_front :
    let w : World := { heap := { lists := #[#[.bool true, .bool false]] } }
    offsetOf (.num (Binary.infinity false)) = some (2 ^ 63 - 1) ∧
      ¬ Index.IsWord (Index.resolve (2 ^ 63 - 1) 2 + 1) ∧
      startAfter (.num (Binary.infinity false)) 2 = 0 ∧
      (indexOf [.list 0, .bool true, .num (Binary.infinity false)]).run.run w =
        (.ok (natValue 0), w) := by
  intro w
  refine ⟨by decide, by decide, by decide, rfl⟩

end Intrinsic

end ScriptLib
