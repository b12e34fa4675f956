import ScriptLib.Proofs.Number.Integers
import ScriptLib.Index

/-!
# Ranges of integers

`Index.range` computes in doubles: the span `b - a` divided by the step, its floor plus one as
the count, and each value as `a + i · s`, stopping early if a value fails to move. On integer
bounds and steps below `2 ^ 52` in magnitude all of it is exact, by the integer arithmetic of
doubles: the span and every value stay below `2 ^ 53` (`multiple_between`), the rounded
quotient keeps its floor (`count_span`), and consecutive values differ, so the progression
never stops early (`range_of_integers`).
-/

namespace ScriptLib

namespace Index

open Number

section Progression

variable {a s : Int} {count : Nat}

/-- The progression from the `i`-th value on, when each value is exact and differs from the
one before: the values `a + j · s` for `j` from `i`, with no early stop. -/
theorem progression_go_ofInt
    (hterm : ∀ j : Nat, j < count → add (ofInt a) (mul (ofInt j) (ofInt s)) = ofInt (a + j * s))
    (hne : ∀ j : Nat, j + 1 < count →
      Number.eq (ofInt (a + j * s)) (ofInt (a + (j + 1 : Nat) * s)) = false) :
    ∀ n i (prev : Option Double), i + n = count →
      (i = 0 ∧ prev = none ∨ ∃ j, i = j + 1 ∧ prev = some (ofInt (a + j * s))) →
      progression.go (ofInt a) (ofInt s) i prev n =
        (List.range' i n).map fun j : Nat => ofInt (a + j * s)
  | 0, _, _, _, _ => rfl
  | n + 1, i, prev, hin, hprev => by
    have hrest := progression_go_ofInt hterm hne n (i + 1) (some (ofInt (a + i * s))) (by omega)
      (.inr ⟨i, rfl, rfl⟩)
    rcases hprev with ⟨-, rfl⟩ | ⟨j, rfl, rfl⟩
    · simp only [progression.go, hterm i (by omega), hrest, List.range'_succ, List.map_cons]
    · simp only [progression.go, hterm (j + 1) (by omega), hne j (by omega), hrest,
        List.range'_succ, List.map_cons, Bool.false_eq_true, if_false]

theorem progression_ofInt
    (hterm : ∀ j : Nat, j < count → add (ofInt a) (mul (ofInt j) (ofInt s)) = ofInt (a + j * s))
    (hne : ∀ j : Nat, j + 1 < count →
      Number.eq (ofInt (a + j * s)) (ofInt (a + (j + 1 : Nat) * s)) = false) :
    progression (ofInt a) (ofInt s) count = (List.range count).map fun j : Nat => ofInt (a + j * s) := by
  rw [progression, List.range_eq_range']
  exact progression_go_ofInt hterm hne count 0 none (Nat.zero_add _) (.inl ⟨rfl, rfl⟩)

end Progression

/-- The quotient of two non-zero integers is negative exactly when their signs differ. -/
theorem sign_div {p s : Int} (hp0 : p ≠ 0) (hs0 : s ≠ 0) :
    (decide (p < 0) != decide (s < 0)) = decide ((p : ℚ) / s < 0) := by
  rcases lt_or_gt_of_ne hp0 with hp' | hp' <;> rcases lt_or_gt_of_ne hs0 with hs' | hs' <;>
    simp [hp', hs', hp'.not_gt, hs'.not_gt, div_neg_iff]

/-- The span divided by the step is below zero exactly when the quotient is negative; a zero
span gives a zero of either sign, which is not. -/
theorem lt_span {p s : Int} (hp : p.natAbs < 2 ^ 53) (hs : s.natAbs ≤ 2 ^ 52) (hs0 : s ≠ 0) :
    lt (div (ofInt p) (ofInt s)) (ofInt 0) = decide ((p : ℚ) / s < 0) := by
  by_cases hp0 : p = 0
  · subst hp0
    rw [div_ofInt_zero (by omega) hs0, Int.cast_zero, zero_div, decide_eq_false (lt_irrefl 0)]
    cases decide (s < 0) <;> rfl
  obtain ⟨n, d, hn, hd, hq, hdiv⟩ := div_ofInt (by omega) (by omega) hp0 hs0
  obtain ⟨m, e, hx, hm, -⟩ := round_fields hn hd hq hp (Int.natAbs_pos.2 hs0) hs
  rw [hdiv, lt_zero_of_finite hx hm, sign_div hp0 hs0]

/-- The floor of a non-negative quotient of integers is the quotient of their magnitudes. -/
theorem floor_div_eq {p s : Int} (hq : 0 ≤ (p : ℚ) / s) :
    ⌊(p : ℚ) / s⌋ = ((p.natAbs / s.natAbs : Nat) : Int) := by
  rw [← abs_of_nonneg hq, abs_div, ← Int.cast_abs, ← Int.cast_abs, ← Nat.cast_natAbs,
    ← Nat.cast_natAbs, Int.floor_div_natCast, Int.floor_natCast]
  exact Int.ofNat_ediv_ofNat

/-- For a non-negative quotient, the count `⌊span / step⌋ + 1` in doubles is the count of the
exact quotient. -/
theorem count_span {p s : Int} (hp : p.natAbs < 2 ^ 53) (hs : s.natAbs ≤ 2 ^ 52) (hs0 : s ≠ 0)
    (hq : 0 ≤ (p : ℚ) / s) :
    add (floor (div (ofInt p) (ofInt s))) (ofInt 1) = ofInt (⌊(p : ℚ) / s⌋ + 1) := by
  by_cases hp0 : p = 0
  · subst hp0
    rw [div_ofInt_zero (by omega) hs0, Int.cast_zero, zero_div, Int.floor_zero, zero_add,
      floor_zero, add_zero_left (by decide)]
  obtain ⟨n, d, hn, hd, hq', hdiv⟩ := div_ofInt (by omega) (by omega) hp0 hs0
  rw [sign_div hp0 hs0, decide_eq_false (not_lt.2 hq)] at hdiv
  obtain ⟨m, e, hx, -, hfl⟩ := round_fields hn hd hq' hp (Int.natAbs_pos.2 hs0) hs
  have hK : p.natAbs / s.natAbs ≤ p.natAbs := Nat.div_le_self _ _
  rw [hdiv, floor_of_nonneg hx, hfl, floor_div_eq hq]
  generalize p.natAbs / s.natAbs = K at hK ⊢
  exact add_ofInt (by omega) (by decide) (by omega)

theorem isFinite_ofInt {z : Int} (hz : z.natAbs ≤ 2 ^ 53) : isFinite (ofInt z) = true := by
  obtain ⟨m, e, hx, -⟩ := ofDouble_ofInt hz
  simp [isFinite, hx]

/-- `range` of integer bounds and an integer step, as the check of the bounds and of the step
leave it: the span divided by the step, nothing for a negative quotient, and otherwise the
count checked against the limit. -/
theorem range_ofInt {a b s : Int} (step : Option Int) (limit : Nat) (ha : a.natAbs ≤ 2 ^ 53)
    (hb : b.natAbs ≤ 2 ^ 53) (hs : s.natAbs ≤ 2 ^ 53) (hs0 : s ≠ 0)
    (hstep : step.getD (if a ≤ b then 1 else -1) = s) (hgiven : ∀ t ∈ step, t = s) :
    range (ofInt a) (ofInt b) (step.map ofInt) limit =
      let span := div (sub (ofInt b) (ofInt a)) (ofInt s)
      if lt span (ofInt 0) then .ok []
      else
        let count := add (floor span) (ofInt 1)
        if lt (ofInt limit) count then .error ⟨.limitExceeded (.rangeLength limit), []⟩
        else .ok (progression (ofInt a) (ofInt s) (toUInt64 count).toNat) := by
  have hfin : (!isFinite (ofInt a) || !isFinite (ofInt b)) = false := by
    rw [isFinite_ofInt ha, isFinite_ofInt hb]
    rfl
  cases step with
  | none =>
    have hdir : ofInt (if le (ofInt a) (ofInt b) then 1 else -1) = ofInt s := by
      rw [le_ofInt ha hb, ← hstep]
      by_cases hab : a ≤ b <;> simp [hab]
    simp only [range, hfin, Bool.false_eq_true, if_false, Option.map_none, hdir]
    rfl
  | some t =>
    have hts : t = s := hgiven t rfl
    subst hts
    have hok : (eq (ofInt t) (ofInt 0) || isNaN (ofInt t)) = false := by
      obtain ⟨m, e, hx, -⟩ := ofDouble_ofInt hs
      rw [eq_ofInt hs (by decide), isNaN_of_finite hx]
      simp [hs0]
    simp only [range, hfin, Bool.false_eq_true, if_false, Option.map_some, hok]
    rfl

/-- The multiples of the step up to the floor of `p / s` lie between zero and `p`. -/
theorem multiple_between {p s : Int} {j : Nat} (hs0 : s ≠ 0) (hq : 0 ≤ (p : ℚ) / s)
    (hj : j ≤ p.natAbs / s.natAbs) : 0 ≤ j * s ∧ j * s ≤ p ∨ p ≤ j * s ∧ j * s ≤ 0 := by
  have hmul : j * s.natAbs ≤ p.natAbs := (Nat.le_div_iff_mul_le (Int.natAbs_pos.2 hs0)).1 hj
  have hmul' : (j : Int) * |s| ≤ |p| := by
    rw [← Int.natCast_natAbs, ← Int.natCast_natAbs]
    exact_mod_cast hmul
  rcases lt_or_gt_of_ne hs0 with hs | hs
  · have hp : p ≤ 0 := by
      have : (p : ℚ) ≤ 0 := by
        by_contra h
        have : (p : ℚ) / s < 0 := div_neg_of_pos_of_neg (lt_of_not_ge h) (by exact_mod_cast hs)
        linarith
      exact_mod_cast this
    rw [abs_of_neg hs, abs_of_nonpos hp] at hmul'
    right
    constructor <;> nlinarith
  · have hp : 0 ≤ p := by
      have : (0 : ℚ) ≤ p := (div_nonneg_iff.1 hq).elim (fun h => h.1)
        (fun h => absurd h.2 (not_le.2 (by exact_mod_cast hs)))
      exact_mod_cast this
    rw [abs_of_pos hs, abs_of_nonneg hp] at hmul'
    left
    constructor <;> nlinarith

/-- Counted up to the whole quotient of the span by the step, the progression of integers below
`2 ^ 52` is exact and never stops early: every multiple of the step lies between zero and the
span, so every value lies between the bounds, and consecutive values differ by the step. -/
theorem progression_within_span {a b s : Int} (ha : a.natAbs < 2 ^ 52) (hb : b.natAbs < 2 ^ 52)
    (hs : s.natAbs < 2 ^ 52) (hs0 : s ≠ 0) (hq : 0 ≤ ((b - a : Int) : ℚ) / s) :
    progression (ofInt a) (ofInt s) ((b - a).natAbs / s.natAbs + 1) =
      (List.range ((b - a).natAbs / s.natAbs + 1)).map fun j : Nat => ofInt (a + j * s) := by
  have hbetween : ∀ j : Nat, j < (b - a).natAbs / s.natAbs + 1 →
      ((j : Int) * s).natAbs ≤ (b - a).natAbs ∧ (a + j * s).natAbs < 2 ^ 52 := by
    intro j hj
    rcases multiple_between hs0 hq (Nat.le_of_lt_succ hj) with ⟨h1, h2⟩ | ⟨h1, h2⟩ <;>
      generalize (j : Int) * s = t at h1 h2 ⊢ <;> omega
  have hspan : (b - a).natAbs < 2 ^ 53 := by omega
  refine progression_ofInt (fun j hj => ?_) (fun j hj => ?_)
  · obtain ⟨h1, h2⟩ := hbetween j hj
    have hjK : j ≤ (b - a).natAbs := (Nat.le_of_lt_succ hj).trans (Nat.div_le_self _ _)
    by_cases hj0 : j = 0
    · subst hj0
      rw [Nat.cast_zero, mul_ofInt_zero (by omega), add_zero_right (by omega), zero_mul, add_zero]
    · rw [mul_ofInt (by omega) (by omega) (by omega) (by exact_mod_cast hj0) hs0,
        add_ofInt (by omega) (by omega) (by omega)]
  · obtain ⟨-, h1⟩ := hbetween j (by omega)
    obtain ⟨-, h2⟩ := hbetween (j + 1) hj
    rw [eq_ofInt (by omega) (by omega)]
    push_cast
    simpa using hs0

/-- On integer bounds and steps below `2 ^ 52` in magnitude, `range` is the inclusive,
direction-aware progression: with `s` the step (by default one towards `b`) and `q = (b - a) / s`,
it is empty for a negative `q`, a length error when `⌊q⌋ + 1` exceeds the limit, and else the
`⌊q⌋ + 1` values `a, a + s, …, a + ⌊q⌋ · s`, exact and with no early stop. -/
theorem range_of_integers (a b : Int) (step : Option Int) (limit : Nat)
    (ha : |a| < 2 ^ 52) (hb : |b| < 2 ^ 52) (hs : ∀ s ∈ step, s ≠ 0 ∧ |s| < 2 ^ 52) :
    let s := step.getD (if a ≤ b then 1 else -1)
    let q : ℚ := ((b - a : Int) : ℚ) / s
    range (ofInt a) (ofInt b) (step.map ofInt) limit =
      if q < 0 then .ok []
      else if (limit : Int) < ⌊q⌋ + 1 then .error ⟨.limitExceeded (.rangeLength limit), []⟩
      else .ok ((List.range (⌊q⌋ + 1).toNat).map fun i : Nat => ofInt (a + i * s)) := by
  intro s q
  obtain ⟨hs0, hs52⟩ : s ≠ 0 ∧ |s| < 2 ^ 52 := by
    cases step with
    | none => simp only [s, Option.getD_none]; split <;> norm_num
    | some t => exact hs t rfl
  have ha' := abs_lt.1 ha
  have hb' := abs_lt.1 hb
  have hs' := abs_lt.1 hs52
  have hgiven : ∀ t ∈ step, t = s := by
    intro t ht
    simp only [s, Option.mem_def.1 ht, Option.getD_some]
  rw [range_ofInt step limit (by omega) (by omega) (by omega) hs0 rfl hgiven]
  dsimp only
  rw [sub_ofInt (by omega) (by omega) (by omega), lt_span (by omega) (by omega) hs0]
  by_cases hneg : q < 0
  · rw [if_pos hneg, decide_eq_true hneg, if_pos rfl]
  rw [if_neg hneg, decide_eq_false hneg, if_neg Bool.false_ne_true]
  have hq0 : 0 ≤ q := not_lt.1 hneg
  -- the count is `K + 1` for the quotient `K` of the magnitudes, at most `2 ^ 53`
  have hK := floor_div_eq hq0
  have hKle : (b - a).natAbs / s.natAbs ≤ (b - a).natAbs := Nat.div_le_self _ _
  generalize hKdef : (b - a).natAbs / s.natAbs = K at hK hKle
  have hK53 : ⌊q⌋ + 1 ≤ 2 ^ 53 := by rw [hK]; omega
  have hK0 : 0 ≤ ⌊q⌋ + 1 := by rw [hK]; omega
  rw [count_span (by omega) (by omega) hs0 hq0, lt_ofNat_ofInt limit hK0 hK53,
    toUInt64_ofInt hK0 hK53]
  simp only [decide_eq_true_eq]
  split_ifs
  · rfl
  congr 1
  rw [show ⌊q⌋ = K from hK, show ((K : Int) + 1).toNat = K + 1 by omega, ← hKdef]
  exact progression_within_span (by omega) (by omega) (by omega) hs0 hq0

/-- From 1 to 6 by 2: the quotient 5 / 2 has the floor 2, so three values. -/
theorem range_one_to_six_by_two :
    |(1 : Int)| < 2 ^ 52 ∧ |(6 : Int)| < 2 ^ 52 ∧ (∀ s ∈ some (2 : Int), s ≠ 0 ∧ |s| < 2 ^ 52) ∧
      range (ofInt 1) (ofInt 6) (some (ofInt 2)) 10 = .ok [ofInt 1, ofInt 3, ofInt 5] := by
  refine ⟨by norm_num, by norm_num, by simp, ?_⟩
  have h := range_of_integers 1 6 (some 2) 10 (by norm_num) (by norm_num) (by simp)
  norm_num at h
  rw [h]
  rfl

end Index

end ScriptLib
