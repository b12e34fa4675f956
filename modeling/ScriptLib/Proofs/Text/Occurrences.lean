import ScriptLib.Text.Search
import Mathlib.Order.Bounds.Defs

/-!
# Searching a text by character

The searches and the slice of the library cut texts by bytes; what they must answer is said
here on characters. A needle `n` occurs in a text `t` at a position `i` from `0` up to the
length of `t` when the characters from `i` on start with `n` (`OccursAt`); the empty needle
occurs at every position, the end included.

* `find t n s` is the least occurrence at or after `s`, none when there is none, in
  particular when `s` lies past the end (`find_eq_some_iff`, `find_eq_none_iff`). The scan
  `findIn` tries each position in turn, and is a search of the positions `0, 1, …` of what is
  left (`findIn_eq_find?`).
* `rfind t n b` is the greatest occurrence at or before `b`. A non-empty needle only occurs
  before the end, so collecting the matching positions below `min (b + 1) |t|` and taking
  the last finds it (`getLast?_filter_range_eq_some_iff`); the empty needle is answered at
  once with `min b |t|`.
* `slice t a c` is the part of `t` between `min a |t|` and `max (min a |t|) (min c |t|)`:
  with the parts before and after it, it makes up `t` (`slice_between`).
-/

namespace ScriptLib

namespace Text

/-- The needle `n` occurs in `t` at position `i`: a position of `t`, its end included, from
which the characters of `t` start with `n`. -/
def OccursAt (t n : List Char) (i : Nat) : Prop :=
  i ≤ t.length ∧ n <+: t.drop i

instance (t n : List Char) (i : Nat) : Decidable (OccursAt t n i) :=
  inferInstanceAs (Decidable (_ ∧ _))

/-- A non-empty needle occurs only before the end. -/
theorem OccursAt.lt_length {t n : List Char} {i : Nat} (hn : n ≠ []) (h : OccursAt t n i) :
    i < t.length := by
  obtain ⟨-, hp⟩ := h
  rcases Nat.lt_or_ge i t.length with hi | hi
  · exact hi
  · rw [List.drop_eq_nil_of_le hi, List.prefix_nil] at hp
    exact absurd hp hn

theorem occursAt_iff_isPrefixOf (t n : List Char) (i : Nat) :
    OccursAt t n i ↔ i ≤ t.length ∧ n.isPrefixOf (t.drop i) = true := by
  rw [OccursAt, List.isPrefixOf_iff_prefix]

theorem OccursAt.isPrefixOf {t n : List Char} {i : Nat} (h : OccursAt t n i) :
    n.isPrefixOf (t.drop i) = true :=
  List.isPrefixOf_iff_prefix.2 h.2

/-- At a position of the text where the needle does not occur, the prefix test fails: the
searches see every position they pass over this way. -/
theorem isPrefixOf_eq_false_of_not_occursAt {t n : List Char} {i : Nat} (hi : i ≤ t.length)
    (h : ¬ OccursAt t n i) : n.isPrefixOf (t.drop i) = false :=
  Bool.eq_false_iff.2 fun hp => h ⟨hi, List.isPrefixOf_iff_prefix.1 hp⟩

/-! ## The first occurrence -/

/-- The scan from position `i` of what is left of a text tries each position of it in turn. -/
theorem findIn_eq_find? (n : List Char) :
    ∀ (rest : List Char) (i : Nat), findIn n rest i =
      ((List.range (rest.length + 1)).find? fun k => n.isPrefixOf (rest.drop k)).map (· + i)
  | [], i => by
    rw [findIn]
    cases h : n.isPrefixOf [] <;> simp [h]
  | c :: r, i => by
    rw [findIn, List.length_cons, List.range_succ_eq_map, List.find?_cons, List.drop_zero]
    cases h : n.isPrefixOf (c :: r)
    · -- the first position fails, and the scan goes on one position later
      simp only [Bool.false_eq_true, if_false, findIn_eq_find? n r (i + 1), List.find?_map,
        Option.map_map]
      congr 1
      funext k
      simp only [Function.comp_apply]
      omega
    · simp

/-- The first occurrence at or after `s` is the least position from `s` on where the
needle occurs. -/
theorem find_eq_some_iff (t n : List Char) (s i : Nat) :
    find t n s = some i ↔ IsLeast {j | s ≤ j ∧ OccursAt t n j} i := by
  unfold find
  split
  · rename_i hs
    exact iff_of_false (fun h => nomatch h) fun h => absurd (Nat.le_trans h.1.1 h.1.2.1) (by omega)
  · rename_i hs
    rw [findIn_eq_find?, Option.map_eq_some_iff]
    simp only [List.find?_range_eq_some, List.mem_range, List.length_drop, List.drop_drop,
      Bool.not_eq_true']
    constructor
    · rintro ⟨k, ⟨hk, hlt, hbefore⟩, rfl⟩
      refine ⟨⟨by omega, (occursAt_iff_isPrefixOf t n _).2 ⟨by omega, by rwa [Nat.add_comm]⟩⟩,
        fun j ⟨hsj, hj⟩ => Nat.le_of_not_lt fun hjk => ?_⟩
      -- an earlier occurrence would have passed a test the scan saw fail
      have hfail := hbefore (j - s) (by omega)
      rw [show s + (j - s) = j by omega, hj.isPrefixOf] at hfail
      cases hfail
    · rintro ⟨⟨hsi, hi⟩, hleast⟩
      have hit : i ≤ t.length := hi.1
      refine ⟨i - s, ⟨?_, by omega, fun k hk => ?_⟩, by omega⟩
      · rw [show s + (i - s) = i by omega]
        exact hi.isPrefixOf
      · exact isPrefixOf_eq_false_of_not_occursAt (by omega) fun hocc =>
          absurd (hleast ⟨Nat.le_add_right s k, hocc⟩) (by omega)

/-- There is no occurrence at or after `s` exactly when the search answers none. -/
theorem find_eq_none_iff (t n : List Char) (s : Nat) :
    find t n s = none ↔ ∀ j, s ≤ j → ¬ OccursAt t n j := by
  unfold find
  split
  · rename_i hs
    exact iff_of_true rfl fun j hj h => absurd (Nat.le_trans hj h.1) (by omega)
  · rename_i hs
    rw [findIn_eq_find?, Option.map_eq_none_iff, List.find?_range_eq_none]
    simp only [List.length_drop, List.drop_drop, Bool.not_eq_true']
    constructor
    · intro h j hj hocc
      have hfail := h (j - s) (by have := hocc.1; omega)
      rw [show s + (j - s) = j by omega, hocc.isPrefixOf] at hfail
      cases hfail
    · intro h k hk
      exact isPrefixOf_eq_false_of_not_occursAt (by omega) (h (s + k) (by omega))

/-! ## The last occurrence -/

/-- The last of the positions below `m` that pass a test is the greatest of them. -/
theorem getLast?_filter_range_eq_some_iff (p : Nat → Bool) :
    ∀ (m i : Nat), ((List.range m).filter p).getLast? = some i ↔
      i < m ∧ p i = true ∧ ∀ j, i < j → j < m → p j = false
  | 0, i => by simp
  | m + 1, i => by
    rw [List.range_succ, List.filter_append, List.getLast?_append]
    cases hm : p m
    · simp only [List.filter_cons, List.filter_nil, hm, Bool.false_eq_true, if_false,
        List.getLast?_nil, Option.none_or, getLast?_filter_range_eq_some_iff p m i]
      constructor
      · rintro ⟨hi, hpi, hafter⟩
        refine ⟨by omega, hpi, fun j hij hj => ?_⟩
        rcases Nat.lt_or_ge j m with hjm | hjm
        · exact hafter j hij hjm
        · rw [show j = m by omega, hm]
      · rintro ⟨hi, hpi, hafter⟩
        have him : i ≠ m := fun h => by rw [h, hm] at hpi; cases hpi
        exact ⟨by omega, hpi, fun j hij hj => hafter j hij (by omega)⟩
    · simp only [List.filter_cons, List.filter_nil, hm, if_true, List.getLast?_singleton,
        Option.some_or, Option.some.injEq]
      constructor
      · rintro rfl
        exact ⟨by omega, hm, fun j hij hj => by omega⟩
      · rintro ⟨hi, -, hafter⟩
        rcases Nat.lt_or_ge i m with him | him
        · have hfail := hafter m him (Nat.lt_succ_self m)
          rw [hm] at hfail
          cases hfail
        · omega

/-- The last occurrence at or before `b` is the greatest position up to `b` where the needle
occurs. -/
theorem rfind_eq_some_iff (t n : List Char) (b i : Nat) :
    rfind t n b = some i ↔ IsGreatest {j | j ≤ b ∧ OccursAt t n j} i := by
  unfold rfind
  split
  · -- the empty needle occurs everywhere, so at the bound clamped to the length
    rename_i hn
    rw [List.isEmpty_iff.1 hn, Option.some.injEq]
    constructor
    · rintro rfl
      exact ⟨⟨Nat.min_le_left _ _, Nat.min_le_right _ _, List.nil_prefix⟩,
        fun j ⟨hjb, hjt, _⟩ => by omega⟩
    · rintro ⟨⟨hib, hit, -⟩, hgreatest⟩
      have := hgreatest ⟨Nat.min_le_left b t.length, Nat.min_le_right b t.length, List.nil_prefix⟩
      omega
  · rename_i hn
    have hne : n ≠ [] := fun h => by simp [h] at hn
    rw [getLast?_filter_range_eq_some_iff]
    constructor
    · rintro ⟨hi, hpi, hafter⟩
      refine ⟨⟨by omega, (occursAt_iff_isPrefixOf t n i).2 ⟨by omega, hpi⟩⟩,
        fun j ⟨hjb, hj⟩ => Nat.le_of_not_lt fun hij => ?_⟩
      have hjt := hj.lt_length hne
      have hfail := hafter j hij (by omega)
      rw [hj.isPrefixOf] at hfail
      cases hfail
    · rintro ⟨⟨hib, hi⟩, hgreatest⟩
      have hit := hi.lt_length hne
      refine ⟨by omega, hi.isPrefixOf, fun j hij hj => ?_⟩
      exact isPrefixOf_eq_false_of_not_occursAt (by omega) fun hocc =>
        absurd (hgreatest ⟨by omega, hocc⟩) (by omega)

/-- There is no occurrence at or before `b` exactly when the search answers none. -/
theorem rfind_eq_none_iff (t n : List Char) (b : Nat) :
    rfind t n b = none ↔ ∀ j, j ≤ b → ¬ OccursAt t n j := by
  unfold rfind
  split
  · rename_i hn
    rw [List.isEmpty_iff.1 hn]
    exact iff_of_false (Option.some_ne_none _) fun h => h 0 (Nat.zero_le b) ⟨Nat.zero_le _, List.nil_prefix⟩
  · rename_i hn
    have hne : n ≠ [] := fun h => by simp [h] at hn
    simp only [List.getLast?_eq_none_iff, List.filter_eq_nil_iff, List.mem_range,
      Bool.not_eq_true]
    constructor
    · intro h j hj hocc
      have hjt := hocc.lt_length hne
      have hfail := h j (by omega)
      rw [hocc.isPrefixOf] at hfail
      cases hfail
    · intro h j hj
      exact isPrefixOf_eq_false_of_not_occursAt (by omega) (h j (by omega))

/-! ## Slices -/

/-- A slice reads the same part once both ends are clamped to the text. -/
theorem slice_eq_clamped (t : List Char) (a c : Nat) :
    slice t a c = (t.drop (min a t.length)).take (max (min a t.length) (min c t.length) -
      min a t.length) := by
  unfold slice
  rcases Nat.lt_or_ge t.length a with ha | ha
  · rw [List.drop_eq_nil_of_le (Nat.le_of_lt ha), Nat.min_eq_right (Nat.le_of_lt ha),
      List.drop_length, List.take_nil, List.take_nil]
  · rw [Nat.min_eq_left ha, List.take_eq_take_iff, List.length_drop]
    omega

theorem slice_zero (t : List Char) (k : Nat) : slice t 0 k = t.take k := by
  rw [slice, List.drop_zero, Nat.sub_zero]

theorem slice_of_length_le (t : List Char) (k : Nat) {c : Nat} (h : t.length ≤ c) :
    slice t k c = t.drop k := by
  rw [slice, List.take_of_length_le (by rw [List.length_drop]; omega)]

/-- A slice is the part of the text between its clamped ends: with the part before its start
and the part after its end it makes up the text. -/
theorem slice_between (t : List Char) (a c : Nat) :
    t.take (min a t.length) ++ slice t a c ++ t.drop (max (min a t.length) (min c t.length)) = t ∧
      (slice t a c).length = max (min a t.length) (min c t.length) - min a t.length := by
  rw [slice_eq_clamped]
  generalize hlo : min a t.length = lo
  generalize hhi : max lo (min c t.length) = hi
  have hle : lo ≤ hi := by omega
  have hhi' : hi ≤ t.length := by omega
  constructor
  · rw [show t.drop hi = (t.drop lo).drop (hi - lo) by rw [List.drop_drop]; congr 1; omega,
      List.append_assoc, List.take_append_drop, List.take_append_drop]
  · rw [List.length_take, List.length_drop]
    omega

end Text

end ScriptLib
