import ScriptLib.Proofs.Number.Shortest
import Mathlib.Data.Rat.Floor

/-!
# Exact values of doubles

A finite double of fields `neg`, `m` and `e` stands for the rational `± m · 2 ^ e`
(`Binary.value`; `Number.value?` of a double, none for NaN and the infinities). The order of
doubles is the order of these values (`Number.compare?_eq`).

Integers of magnitude at most `2 ^ 53` are held exactly: `Number.ofInt z` has the value `z`
(`Number.ofDouble_ofInt`), since a rounding whose exact result is the value of a double gives
that double (`Binary.round_eq_of_value`). The integer part that the conversions to machine
words take is the floor of a non-negative value (`Number.trunc?_of_nonneg`).
-/

namespace ScriptLib

namespace Binary

/-- The exact value of the fields of a finite double: `± m · 2 ^ e`. -/
def value (neg : Bool) (m : Nat) (e : Int) : ℚ :=
  (if neg then -(m : ℚ) else m) * 2 ^ e

/-- The signed mantissa scaled to a lower exponent `k` is the value times `2 ^ (-k)`. -/
theorem scaled_mul_eq_value (neg : Bool) (m : Nat) {e k : Int} (hk : k ≤ e) :
    ((scaled neg m * 2 ^ (e - k).toNat : Int) : ℚ) = value neg m e * 2 ^ (-k) := by
  have hpow : (2 : ℚ) ^ (e - k).toNat = 2 ^ e * 2 ^ (-k) := by
    rw [← two_zpow_of_nonneg (by omega), ← zpow_add₀ two_ne_zero, sub_eq_add_neg]
  unfold scaled value
  cases neg <;> push_cast [hpow] <;> ring

/-- The fields of a finite double are read back from the pattern `finiteBits` writes. -/
theorem ofDouble_finiteBits {neg : Bool} {m : Nat} {e : Int} (hc : Canonical m e)
    (hmax : e ≤ maxExp) : ofDouble (toDouble (finiteBits neg m e)) = .finite neg m e := by
  rw [ofDouble_toDouble, Nat.mod_eq_of_lt (finiteBits_lt hc.1 hmax), ofBits_finiteBits hc hmax]

/-- A natural number from 1 to `2 ^ 53` has the fields of a normal double. -/
theorem exists_fields_of_nat {k : Nat} (hk : 0 < k) (hk53 : k ≤ 2 ^ 53) :
    ∃ m e, Canonical m e ∧ 0 < m ∧ e ≤ maxExp ∧ (k : ℚ) = m * 2 ^ e := by
  have hlog := Nat.lt_log2_self (n := k)
  have hlow : 2 ^ k.log2 ≤ k := Nat.log2_self_le (by omega)
  by_cases hp : k.log2 ≤ 52
  · refine ⟨k * 2 ^ (52 - k.log2), (k.log2 : Int) - 52, ⟨?_, ?_, .inl ?_⟩, ?_, ?_, ?_⟩
    · have : k * 2 ^ (52 - k.log2) < 2 ^ (k.log2 + 1) * 2 ^ (52 - k.log2) :=
        Nat.mul_lt_mul_of_pos_right hlog (by positivity)
      rw [← Nat.pow_add, show k.log2 + 1 + (52 - k.log2) = 53 by omega] at this
      simpa [fractionCount] using this
    · simp only [minExp]; omega
    · have : 2 ^ k.log2 * 2 ^ (52 - k.log2) ≤ k * 2 ^ (52 - k.log2) :=
        Nat.mul_le_mul_right _ hlow
      rw [← Nat.pow_add, show k.log2 + (52 - k.log2) = 52 by omega] at this
      simpa [fractionCount] using this
    · positivity
    · simp only [maxExp]; omega
    · have hexp : ((52 - k.log2 : Nat) : Int) + ((k.log2 : Int) - 52) = 0 := by omega
      rw [Nat.cast_mul, Nat.cast_pow, Nat.cast_ofNat, mul_assoc, ← zpow_natCast (2 : ℚ),
        ← zpow_add₀ two_ne_zero, hexp, zpow_zero, mul_one]
  · -- only `2 ^ 53` itself has its leading bit past the mantissa
    have hk' : k = 2 ^ 53 := by
      have : 2 ^ 53 ≤ 2 ^ k.log2 := Nat.pow_le_pow_right (by decide) (by omega)
      omega
    refine ⟨fractionCount, 1, ⟨by simp [fractionCount], by simp [minExp], .inl le_rfl⟩,
      by simp [fractionCount], by simp [maxExp], ?_⟩
    subst hk'
    norm_num [fractionCount]

/-- A positive quotient equal to the value of a positive double rounds to that double. -/
theorem round_eq_of_value {neg : Bool} {n d m : Nat} {e : Int} (hn : 0 < n) (hd : 0 < d)
    (hc : Canonical m e) (hm : 0 < m) (hmax : e ≤ maxExp) (hq : (n : ℚ) / d = m * 2 ^ e) :
    round neg n d = toDouble (finiteBits neg m e) :=
  round_eq_of_roundsTo hn hd hc hm hmax (hq ▸ roundsTo_self hm e)

end Binary

namespace Number

open Binary

/-- The exact value of a double; none for NaN and the infinities. -/
def value? (x : Double) : Option ℚ :=
  match ofDouble x with
  | .finite neg m e => some (value neg m e)
  | _ => none

theorem value?_of_finite {x : Double} {neg : Bool} {m : Nat} {e : Int}
    (hx : ofDouble x = .finite neg m e) : value? x = some (value neg m e) := by
  simp [value?, hx]

theorem compare_intCast (a b : Int) : compare (a : ℚ) b = compare a b :=
  (compare_iff _ _).2 (Int.cast_strictMono.compares.2 ((compare_iff _ _).1 rfl))

/-- Two finite doubles compare as their exact values. -/
theorem compare?_eq {x y : Double} {a b : Bool} {m n : Nat} {e f : Int}
    (hx : ofDouble x = .finite a m e) (hy : ofDouble y = .finite b n f) :
    compare? x y = some (compare (value a m e) (value b n f)) := by
  unfold compare?
  rw [hx, hy]
  dsimp only
  -- both sides are scaled to the smaller exponent, a positive factor
  rw [← compare_intCast, scaled_mul_eq_value a m (min_le_left e f),
    scaled_mul_eq_value b n (min_le_right e f), Shortest.compare_mul_right (by positivity)]

/-- `Number.ofInt` holds every integer of magnitude at most `2 ^ 53` exactly, with the sign of
the integer (a positive zero for zero). -/
theorem ofDouble_ofInt {z : Int} (hz : z.natAbs ≤ 2 ^ 53) :
    ∃ m e, ofDouble (ofInt z) = .finite (decide (z < 0)) m e ∧ Canonical m e ∧
      value (decide (z < 0)) m e = z := by
  by_cases hz0 : z = 0
  · subst hz0
    exact ⟨0, minExp, by decide, ⟨by decide, le_rfl, .inr rfl⟩, by simp [value]⟩
  have hpos : 0 < z.natAbs := Int.natAbs_pos.2 hz0
  obtain ⟨m, e, hc, hm, hmax, hk⟩ := exists_fields_of_nat hpos hz
  have hround : ofInt z = toDouble (finiteBits (decide (z < 0)) m e) :=
    round_eq_of_value hpos Nat.one_pos hc hm hmax (by rw [Nat.cast_one, div_one, hk])
  refine ⟨m, e, by rw [hround, ofDouble_finiteBits hc hmax], hc, ?_⟩
  have habs : ((z.natAbs : Int) : ℚ) = m * 2 ^ e := by rw [Int.cast_natCast]; exact hk
  unfold value
  by_cases hneg : z < 0
  · rw [Int.ofNat_natAbs_of_nonpos hneg.le] at habs
    simp only [hneg, decide_true, if_true]
    push_cast at habs
    linarith
  · rw [Int.natAbs_of_nonneg (not_lt.1 hneg)] at habs
    simp [hneg, habs]

theorem value?_ofInt {z : Int} (hz : z.natAbs ≤ 2 ^ 53) : value? (ofInt z) = some (z : ℚ) := by
  obtain ⟨m, e, hx, -, hv⟩ := ofDouble_ofInt hz
  rw [value?_of_finite hx, hv]

/-- The integer part of a finite double of non-negative value is the floor of its value. -/
theorem trunc?_of_nonneg {x : Double} {neg : Bool} {m : Nat} {e : Int}
    (hx : ofDouble x = .finite neg m e) (hv : 0 ≤ value neg m e) :
    trunc? x = some ⌊value neg m e⌋ := by
  have hm : neg = true → m = 0 := by
    intro hneg
    subst hneg
    have : (m : ℚ) * 2 ^ e ≤ 0 := by simpa [value] using hv
    have : (m : ℚ) ≤ 0 := nonpos_of_mul_nonpos_left this (by positivity)
    exact_mod_cast le_antisymm this (Nat.cast_nonneg m)
  unfold trunc?
  rw [hx]
  simp only [Option.some.injEq]
  cases neg with
  | true => simp [hm rfl, value]
  | false =>
    simp only [value, Bool.false_eq_true, if_false]
    split
    · rename_i he
      rw [two_zpow_of_nonneg he]
      exact_mod_cast (Int.floor_natCast (R := ℚ) _).symm
    · rename_i he
      have hcast : (2 : ℚ) ^ (-e).toNat = ((2 ^ (-e).toNat : Nat) : ℚ) := by push_cast; rfl
      rw [two_zpow_of_neg (by omega), mul_one_div, hcast, Int.floor_div_natCast,
        Int.floor_natCast]
      exact Int.natCast_div _ _

end Number

end ScriptLib
