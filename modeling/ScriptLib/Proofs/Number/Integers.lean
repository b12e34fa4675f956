import ScriptLib.Proofs.Number.Exact
import ScriptLib.Proofs.Number.RoundTrip

/-!
# Integers held by doubles

Every integer of magnitude at most `2 ^ 53` is held exactly by a double (`Number.ofDouble_ofInt`).
On such integers the arithmetic of doubles is the arithmetic of integers as long as the result
stays within `2 ^ 53`: sums, differences and products are exact (`Number.add_ofInt`,
`Number.sub_ofInt`, `Number.mul_ofInt`), with the one difference that a zero times a negative
number is a negative zero, which adds as zero. Comparisons agree with those of the integers
(`Number.lt_ofInt`, `Number.eq_ofInt`, `Number.le_ofInt`), and a natural number past `2 ^ 53`,
rounded, still compares as at least `2 ^ 53` (`Number.lt_ofNat_ofInt`).

A quotient is rounded, but when the numerator is below `2 ^ 53` and the denominator at most
`2 ^ 52` the rounding does not cross an integer: the floor of the rounded quotient is the
floor of the exact one (`Number.round_fields`, from `Binary.floor_of_near`). All rest on one
description of rounding above the subnormals (`Binary.round_normal`): the mantissa is within
half a unit of the scaled quotient.
-/

namespace ScriptLib

namespace Binary

/-- Rounding to the nearest natural number moves a quotient by at most a half. -/
theorem roundHalfEven_near {a b : Nat} (hb : 0 < b) :
    |(a : ℚ) / b - roundHalfEven a b| ≤ 1 / 2 := by
  have hnat : 2 * roundHalfEven a b * b ≤ 2 * a + b ∧ 2 * a ≤ (2 * roundHalfEven a b + 1) * b := by
    have hdiv := Nat.div_add_mod a b
    have hmod := Nat.mod_lt a hb
    unfold roundHalfEven
    generalize a / b = q at *
    generalize a % b = r at *
    subst hdiv
    dsimp only
    split_ifs <;> constructor <;> nlinarith
  have hbq : (0 : ℚ) < b := by exact_mod_cast hb
  obtain ⟨h1, h2⟩ := hnat
  have h1' : (2 * roundHalfEven a b * b : ℚ) ≤ 2 * a + b := by exact_mod_cast h1
  have h2' : (2 * a : ℚ) ≤ (2 * roundHalfEven a b + 1) * b := by exact_mod_cast h2
  have hlo : (roundHalfEven a b : ℚ) - 1 / 2 ≤ a / b := by rw [le_div_iff₀ hbq]; linarith
  have hhi : (a : ℚ) / b ≤ roundHalfEven a b + 1 / 2 := by rw [div_le_iff₀ hbq]; linarith
  exact abs_le.2 ⟨by linarith, by linarith⟩

/-- A positive quotient above the subnormals, in the binade `2 ^ L ≤ n / d < 2 ^ (L + 1)`, is
rounded at the exponent `L - 52` to a mantissa `r` of at least `2 ^ 52` within half a unit of it.
The double is infinite only past the largest exponent; else it has the value `r · 2 ^ (L - 52)`,
the carry into the next binade included. -/
theorem round_normal {neg : Bool} {n d : Nat} (hn : 0 < n) (hd : 0 < d)
    (hmin : minExp ≤ floorLog2 n d - 52) :
    ∃ r : Nat, |(n : ℚ) / d * 2 ^ (-(floorLog2 n d - 52)) - r| ≤ 1 / 2 ∧ 2 ^ 52 ≤ r ∧
      (round neg n d = infinity neg ∧ maxExp ≤ floorLog2 n d - 52 ∨
        ∃ m e, ofDouble (round neg n d) = .finite neg m e ∧ 0 < m ∧
          (m : ℚ) * 2 ^ e = r * 2 ^ (floorLog2 n d - 52)) := by
  obtain ⟨a, b, hb, hval, heq⟩ := scaledRound_eq_roundHalfEven (floorLog2 n d - 52) hd
  have hnear : |(n : ℚ) / d * 2 ^ (-(floorLog2 n d - 52)) -
      scaledRound n d (floorLog2 n d - 52)| ≤ 1 / 2 := by
    rw [heq, ← hval]
    exact roundHalfEven_near hb
  -- scaled to the exponent, the quotient lies in `[2 ^ 52, 2 ^ 53)`
  have hx : (2 : ℚ) ^ 52 ≤ (n : ℚ) / d * 2 ^ (-(floorLog2 n d - 52)) ∧
      (n : ℚ) / d * 2 ^ (-(floorLog2 n d - 52)) < 2 ^ 53 := by
    obtain ⟨h1, h2⟩ := floorLog2_spec hn hd
    have hpos : (0 : ℚ) < 2 ^ (-(floorLog2 n d - 52)) := by positivity
    constructor
    · calc (2 : ℚ) ^ 52 = 2 ^ floorLog2 n d * 2 ^ (-(floorLog2 n d - 52)) := by
            rw [← zpow_add₀ two_ne_zero]; ring_nf; norm_num
        _ ≤ _ := mul_le_mul_of_nonneg_right h1 hpos.le
    · calc _ < 2 ^ (floorLog2 n d + 1) * 2 ^ (-(floorLog2 n d - 52)) :=
            mul_lt_mul_of_pos_right h2 hpos
        _ = 2 ^ 53 := by rw [← zpow_add₀ two_ne_zero]; ring_nf; norm_num
  generalize hr : scaledRound n d (floorLog2 n d - 52) = r at hnear
  generalize (n : ℚ) / d * 2 ^ (-(floorLog2 n d - 52)) = x at hnear hx
  obtain ⟨hlo, hhi⟩ := abs_le.1 hnear
  have hr1 : fractionCount ≤ r := by
    have : (2 : ℚ) ^ 52 < r + 1 := by linarith
    have : 2 ^ 52 < r + 1 := by exact_mod_cast this
    simp only [fractionCount]; omega
  have hr2 : r ≤ 2 * fractionCount := by
    have : (r : ℚ) < 2 ^ 53 + 1 := by linarith
    have : r < 2 ^ 53 + 1 := by exact_mod_cast this
    simp only [fractionCount]; omega
  refine ⟨r, hnear, hr1, ?_⟩
  rw [round_eq_of_scaled hn hd (max_eq_left hmin) hr]
  split_ifs with hc hbig hbig
  · exact .inl ⟨rfl, by omega⟩
  · refine .inr ⟨fractionCount, floorLog2 n d - 52 + 1,
      ofDouble_finiteBits ⟨by simp [fractionCount], by omega, .inl le_rfl⟩ (by omega),
      by simp [fractionCount], ?_⟩
    rw [hc, zpow_add_one₀ two_ne_zero]
    push_cast
    ring
  · exact .inl ⟨rfl, by omega⟩
  · exact .inr ⟨r, _, ofDouble_finiteBits ⟨by omega, hmin, .inl hr1⟩ (by omega),
      by simp only [fractionCount] at hr1; omega, rfl⟩

/-- A positive quotient equal to the magnitude of an integer of at most `2 ^ 53`, rounded with
the integer's sign, is the integer's double. -/
theorem round_eq_ofInt {neg : Bool} {n d : Nat} {z : Int} (hn : 0 < n) (hd : 0 < d)
    (hq : (n : ℚ) / d = z.natAbs) (hneg : neg = decide (z < 0)) (hz : z.natAbs ≤ 2 ^ 53) :
    round neg n d = ofInt z := by
  have hz0 : 0 < z.natAbs := by
    have : (0 : ℚ) < n / d := by positivity
    rw [hq] at this
    exact_mod_cast this
  obtain ⟨m, e, hc, hm, hmax, hk⟩ := exists_fields_of_nat hz0 hz
  rw [round_eq_of_value hn hd hc hm hmax (hq.trans hk), ofInt,
    round_eq_of_value hz0 Nat.one_pos hc hm hmax (by rw [Nat.cast_one, div_one, hk]), hneg]

/-- A non-zero scaled integer `s · 2 ^ k` of the value of an integer of at most `2 ^ 53` is
that integer's double. -/
theorem ofScaled_eq_ofInt {s k z : Int} (hs : (s : ℚ) = z * 2 ^ (-k)) (hs0 : s ≠ 0)
    (hz : z.natAbs ≤ 2 ^ 53) : ofScaled s k = ofInt z := by
  have hpos : (0 : ℚ) < 2 ^ (-k) := by positivity
  have hsign : decide (s < 0) = decide (z < 0) := by
    have : (s : ℚ) < 0 ↔ (z : ℚ) < 0 := by rw [hs]; exact Rat.mul_neg_iff_of_pos_right hpos
    exact decide_eq_decide.2 (by exact_mod_cast this)
  have habs : (s.natAbs : ℚ) = z.natAbs * 2 ^ (-k) := by
    rw [Nat.cast_natAbs, Nat.cast_natAbs, Int.cast_abs, Int.cast_abs, hs, abs_mul,
      abs_of_pos hpos]
  unfold ofScaled
  split
  · rename_i hk
    refine round_eq_ofInt (Nat.mul_pos (Int.natAbs_pos.2 hs0) (by positivity)) Nat.one_pos ?_
      hsign hz
    rw [Nat.cast_one, div_one, Nat.cast_mul, habs, Nat.cast_pow, Nat.cast_ofNat,
      ← two_zpow_of_nonneg hk, mul_assoc, ← zpow_add₀ two_ne_zero, neg_add_cancel, zpow_zero,
      mul_one]
  · rename_i hk
    refine round_eq_ofInt (Int.natAbs_pos.2 hs0) (by positivity) ?_ hsign hz
    rw [habs, Nat.cast_pow, Nat.cast_ofNat, ← two_zpow_of_nonneg (by omega),
      mul_div_cancel_right₀ _ hpos.ne']

/-- The sign bit of a finite double is the sign of its fields. -/
theorem signBit_of_finite {x : Double} {neg : Bool} {m : Nat} {e : Int}
    (hx : ofDouble x = .finite neg m e) : Number.signBit x = neg := by
  have hb := x.bits.toNat_lt
  unfold ofDouble ofBits at hx
  simp only [Nat.mod_eq_of_lt hb] at hx
  split_ifs at hx <;> cases hx <;> rfl

/-- Negation flips the sign of the fields of a finite double. -/
theorem ofDouble_negate {x : Double} {neg : Bool} {m : Nat} {e : Int}
    (hx : ofDouble x = .finite neg m e) : ofDouble (negate x) = .finite (!neg) m e := by
  have hc := canonical_of_ofBits hx
  have he := exp_le_of_ofBits hx
  rw [← toDouble_finiteBits hx]
  cases neg with
  | false =>
    rw [show negate _ = _ from negate_finiteBits hc.1 he]
    exact ofDouble_finiteBits hc he
  | true =>
    have hlt := finiteBits_false_lt hc.1 he
    have hflip : ((finiteBits true m e % 2 ^ 64 + signPlace) % 2 ^ 64) = finiteBits false m e := by
      rw [finiteBits_true]
      unfold signPlace at *
      omega
    unfold negate
    rw [toNat_bits_toDouble, hflip]
    exact ofDouble_finiteBits hc he

theorem ofDouble_zero (neg : Bool) : ofDouble (zero neg) = .finite neg 0 minExp := by
  cases neg <;> decide

/-- Rounding `N / D` to the nearest multiple of `1 / T`, on a grid finer than `2 / D`, keeps its
floor: the next integer lies at least `1 / D` above the quotient, more than half a step. -/
theorem floor_of_near {N D T r : Nat} (hD : 0 < D) (hT : 0 < T) (hDT : D < 2 * T)
    (hr : |(N : ℚ) / D * T - r| ≤ 1 / 2) : ⌊(r : ℚ) / T⌋ = ((N / D : Nat) : Int) := by
  have hDq : (0 : ℚ) < D := by exact_mod_cast hD
  have hTq : (0 : ℚ) < T := by exact_mod_cast hT
  have hDTq : (D : ℚ) < 2 * T := by exact_mod_cast hDT
  obtain ⟨hlo, hhi⟩ := abs_le.1 hr
  have hK1 : ((N / D : Nat) : ℚ) * D ≤ N := by exact_mod_cast Nat.div_mul_le_self N D
  have hK2 : (N : ℚ) + 1 ≤ ((N / D : Nat) + 1) * D := by
    have := Nat.lt_mul_div_succ N hD
    have : N + 1 ≤ (N / D + 1) * D := by rw [Nat.mul_comm]; omega
    exact_mod_cast this
  have hKq : ((N / D : Nat) : ℚ) ≤ N / D := by rw [le_div_iff₀ hDq]; exact hK1
  have hnext : (N : ℚ) / D * T + 1 / 2 < ((N / D : Nat) + 1) * T := by
    have hstep : (N : ℚ) / D * T + T / D ≤ ((N / D : Nat) + 1) * T := by
      have hsum : (N : ℚ) / D * T + T / D = (N + 1) * T / D := by ring
      rw [hsum, div_le_iff₀ hDq]
      calc ((N : ℚ) + 1) * T ≤ (((N / D : Nat) + 1) * D) * T :=
            mul_le_mul_of_nonneg_right hK2 hTq.le
        _ = ((N / D : Nat) + 1) * T * D := by ring
    have hhalf : (1 : ℚ) / 2 < T / D := by rw [lt_div_iff₀ hDq]; linarith
    linarith
  have hlow : (N / D) * T ≤ r := by
    have : ((N / D : Nat) : ℚ) * T < r + 1 := by nlinarith
    have : (N / D) * T < r + 1 := by exact_mod_cast this
    omega
  have hup : r < (N / D + 1) * T := by
    have : (r : ℚ) < ((N / D : Nat) + 1) * T := by linarith
    exact_mod_cast this
  rw [Int.floor_eq_iff]
  constructor
  · rw [le_div_iff₀ hTq]
    exact_mod_cast hlow
  · rw [div_lt_iff₀ hTq]
    push_cast
    exact_mod_cast hup

theorem value_not (neg : Bool) (m : Nat) (e : Int) : value (!neg) m e = -value neg m e := by
  cases neg <;> simp [value]

/-- The value of a product of fields is the product of the values. -/
theorem value_mul (a b : Bool) (m n : Nat) (e f : Int) :
    value a m e * value b n f = value (a != b) (m * n) (e + f) := by
  have h2 : (2 : ℚ) ^ (e + f) = 2 ^ e * 2 ^ f := zpow_add₀ two_ne_zero e f
  cases a <;> cases b <;> simp [value, h2] <;> ring

/-- The fields of a non-zero value have a non-zero mantissa. -/
theorem mantissa_pos {neg : Bool} {m : Nat} {e : Int} {z : Int} (hv : value neg m e = z)
    (hz : z ≠ 0) : 0 < m := by
  refine Nat.pos_of_ne_zero fun hm => hz ?_
  subst hm
  exact_mod_cast (by simpa [value] using hv.symm : (z : ℚ) = 0)

/-- A value of fields with a non-zero mantissa has the sign of the fields. -/
theorem value_eq_int {neg : Bool} {m : Nat} {e : Int} {z : Int} (hm : 0 < m)
    (hv : value neg m e = z) : neg = decide (z < 0) ∧ (z.natAbs : ℚ) = m * 2 ^ e := by
  have hpos : (0 : ℚ) < m * 2 ^ e := by positivity
  rw [Nat.cast_natAbs, Int.cast_abs, ← hv]
  cases neg with
  | false =>
    have : (0 : ℚ) < z := by rw [← hv]; simpa [value] using hpos
    have : 0 < z := by exact_mod_cast this
    simp [value, abs_of_pos hpos, this.not_gt]
  | true =>
    have : (z : ℚ) < 0 := by rw [← hv]; simpa [value] using hpos
    have : z < 0 := by exact_mod_cast this
    simp [value, abs_of_pos hpos, this]

end Binary

namespace Number

open Binary

theorem isNaN_of_finite {x : Double} {neg : Bool} {m : Nat} {e : Int}
    (hx : ofDouble x = .finite neg m e) : isNaN x = false := by
  simp [isNaN, hx]

/-- A finite double whose value is an integer is that integer's double. -/
theorem eq_ofInt_of_value {x : Double} {neg : Bool} {m : Nat} {e : Int} {z : Int}
    (hx : ofDouble x = .finite neg m e) (hm : 0 < m) (hv : value neg m e = z) : x = ofInt z := by
  obtain ⟨hneg, habs⟩ := value_eq_int hm hv
  have hz0 : 0 < z.natAbs := by
    have : (0 : ℚ) < z.natAbs := by rw [habs]; positivity
    exact_mod_cast this
  rw [← toDouble_finiteBits hx, ofInt, Binary.ofInt,
    round_eq_of_value hz0 Nat.one_pos (canonical_of_ofBits hx) hm (exp_le_of_ofBits hx)
      (by rw [Nat.cast_one, div_one, habs]), hneg]

/-- Two finite doubles scaled to the smaller exponent: the sum of the signed mantissas is the
exact sum of the values, times `2 ^ (-k)`. -/
theorem scaled_add_eq_value (a b : Bool) (m n : Nat) (e f : Int) :
    ((scaled a m * 2 ^ (e - min e f).toNat + scaled b n * 2 ^ (f - min e f).toNat : Int) : ℚ) =
      (value a m e + value b n f) * 2 ^ (-(min e f)) := by
  rw [Int.cast_add, scaled_mul_eq_value a m (min_le_left e f),
    scaled_mul_eq_value b n (min_le_right e f), ← add_mul]

/-- A sum of finite doubles whose exact value is an integer of at most `2 ^ 53` is that
integer's double, given that a zero sum is not of two negative operands. -/
theorem add_eq_ofInt {x y : Double} {a b : Bool} {m n : Nat} {e f : Int} {z : Int}
    (hx : ofDouble x = .finite a m e) (hy : ofDouble y = .finite b n f)
    (hv : value a m e + value b n f = z) (hz : z.natAbs ≤ 2 ^ 53)
    (hsign : z = 0 → (a && b) = false) : add x y = ofInt z := by
  unfold add
  rw [hx, hy]
  dsimp only
  have hs := scaled_add_eq_value a b m n e f
  rw [hv] at hs
  split
  · rename_i h0
    have hz0 : z = 0 := by
      rw [h0, Int.cast_zero] at hs
      exact_mod_cast (mul_eq_zero.1 hs.symm).resolve_right (by positivity)
    rw [hsign hz0, hz0]
    rfl
  · exact ofScaled_eq_ofInt hs ‹_› hz

theorem ofDouble_ofInt_zero : ofDouble (ofInt 0) = .finite false 0 minExp := by decide

/-- Integers of at most `2 ^ 53` add, subtract and multiply exactly as doubles. -/
theorem add_ofInt {a c : Int} (ha : a.natAbs ≤ 2 ^ 53) (hc : c.natAbs ≤ 2 ^ 53)
    (hac : (a + c).natAbs ≤ 2 ^ 53) : add (ofInt a) (ofInt c) = ofInt (a + c) := by
  obtain ⟨m, e, hx, -, hva⟩ := ofDouble_ofInt ha
  obtain ⟨n, f, hy, -, hvc⟩ := ofDouble_ofInt hc
  refine add_eq_ofInt hx hy (by rw [hva, hvc]; push_cast; rfl) hac fun h0 => ?_
  simp only [Bool.and_eq_false_iff, decide_eq_false_iff_not, not_lt]
  omega

theorem add_zero_right {a : Int} (ha : a.natAbs ≤ 2 ^ 53) (neg : Bool) :
    add (ofInt a) (zero neg) = ofInt a := by
  obtain ⟨m, e, hx, -, hva⟩ := ofDouble_ofInt ha
  refine add_eq_ofInt hx (ofDouble_zero neg) (by rw [hva]; simp [value]) ha fun h0 => ?_
  simp [h0]

theorem sub_ofInt {a b : Int} (ha : a.natAbs ≤ 2 ^ 53) (hb : b.natAbs ≤ 2 ^ 53)
    (hba : (b - a).natAbs ≤ 2 ^ 53) : sub (ofInt b) (ofInt a) = ofInt (b - a) := by
  obtain ⟨m, e, hx, -, hva⟩ := ofDouble_ofInt ha
  obtain ⟨n, f, hy, -, hvb⟩ := ofDouble_ofInt hb
  unfold sub
  rw [isNaN_of_finite hy, isNaN_of_finite hx]
  refine add_eq_ofInt hy (ofDouble_negate hx) (by rw [value_not, hva, hvb]; push_cast; ring) hba
    fun h0 => ?_
  have : a = b := by omega
  subst this
  simp

theorem mul_ofInt {i s : Int} (hi : i.natAbs ≤ 2 ^ 53) (hs : s.natAbs ≤ 2 ^ 53)
    (his : (i * s).natAbs ≤ 2 ^ 53) (hi0 : i ≠ 0) (hs0 : s ≠ 0) :
    mul (ofInt i) (ofInt s) = ofInt (i * s) := by
  obtain ⟨m, e, hx, -, hvi⟩ := ofDouble_ofInt hi
  obtain ⟨n, f, hy, -, hvs⟩ := ofDouble_ofInt hs
  have hm := mantissa_pos hvi hi0
  have hn := mantissa_pos hvs hs0
  unfold mul
  rw [signBit_of_finite hx, signBit_of_finite hy, hx, hy]
  simp only [hm.ne', hn.ne', or_self, if_false]
  have hprod := scaled_mul_eq_value (decide (i < 0) != decide (s < 0)) (m * n) (le_refl (e + f))
  rw [sub_self, Int.toNat_zero, pow_zero, mul_one, ← value_mul, hvi, hvs] at hprod
  refine ofScaled_eq_ofInt ?_ ?_ his
  · show ((scaled _ (m * n) : Int) : ℚ) = _
    rw [hprod]
    push_cast
    ring
  · show scaled _ (m * n) ≠ 0
    unfold scaled
    split <;> simp [hm.ne', hn.ne']

/-- A zero times a number is a zero of the product's sign. -/
theorem mul_ofInt_zero {s : Int} (hs : s.natAbs ≤ 2 ^ 53) :
    mul (ofInt 0) (ofInt s) = zero (decide (s < 0)) := by
  obtain ⟨n, f, hy, -, -⟩ := ofDouble_ofInt hs
  unfold mul
  rw [signBit_of_finite ofDouble_ofInt_zero, signBit_of_finite hy, ofDouble_ofInt_zero, hy]
  simp

theorem two_pow_toNat_div (k : Int) : (2 : ℚ) ^ k.toNat / 2 ^ (-k).toNat = 2 ^ k := by
  rcases le_or_gt 0 k with hk | hk
  · rw [two_zpow_of_nonneg hk, Int.toNat_of_nonpos (show -k ≤ 0 by omega), pow_zero, div_one]
  · rw [two_zpow_of_neg hk, Int.toNat_of_nonpos (show k ≤ 0 by omega), pow_zero]

/-- A quotient of non-zero integers as doubles is the rounding of the quotient of their
magnitudes, with the sign of the quotient. -/
theorem div_ofInt {p s : Int} (hp : p.natAbs ≤ 2 ^ 53) (hs : s.natAbs ≤ 2 ^ 53) (hp0 : p ≠ 0)
    (hs0 : s ≠ 0) :
    ∃ n d : Nat, 0 < n ∧ 0 < d ∧ (n : ℚ) / d = p.natAbs / s.natAbs ∧
      div (ofInt p) (ofInt s) = round (decide (p < 0) != decide (s < 0)) n d := by
  obtain ⟨m, e, hx, -, hvp⟩ := ofDouble_ofInt hp
  obtain ⟨n, f, hy, -, hvs⟩ := ofDouble_ofInt hs
  have hm := mantissa_pos hvp hp0
  have hn := mantissa_pos hvs hs0
  refine ⟨m * 2 ^ (e - f).toNat, n * 2 ^ (-(e - f)).toNat, by positivity, by positivity, ?_, ?_⟩
  · rw [(value_eq_int hm hvp).2, (value_eq_int hn hvs).2]
    push_cast
    rw [mul_div_mul_comm, two_pow_toNat_div, zpow_sub₀ two_ne_zero]
    field_simp
  · unfold div
    rw [signBit_of_finite hx, signBit_of_finite hy, hx, hy]
    simp [hm.ne', hn.ne']

theorem div_ofInt_zero {s : Int} (hs : s.natAbs ≤ 2 ^ 53) (hs0 : s ≠ 0) :
    div (ofInt 0) (ofInt s) = zero (decide (s < 0)) := by
  obtain ⟨n, f, hy, -, hvs⟩ := ofDouble_ofInt hs
  unfold div
  rw [signBit_of_finite ofDouble_ofInt_zero, signBit_of_finite hy, ofDouble_ofInt_zero, hy]
  simp [(mantissa_pos hvs hs0).ne']

/-- The floor of a non-negative finite double is the double of its value's floor. -/
theorem floor_of_nonneg {x : Double} {m : Nat} {e : Int} (hx : ofDouble x = .finite false m e) :
    floor x = ofInt ⌊value false m e⌋ := by
  have hfl := trunc?_of_nonneg hx (by simp only [value, Bool.false_eq_true, if_false]; positivity)
  unfold trunc? at hfl
  rw [hx] at hfl
  simp only [Option.some.injEq, Bool.false_eq_true, if_false] at hfl
  unfold floor
  rw [hx]
  dsimp only
  split
  · rename_i he
    rw [if_pos he] at hfl
    have hm : 0 < m := by
      rcases (canonical_of_ofBits hx).2.2 with h | h
      · simp only [fractionCount] at h; omega
      · simp only [minExp] at h; omega
    refine eq_ofInt_of_value hx hm ?_
    rw [← hfl]
    simp [value, two_zpow_of_nonneg he]
  · rename_i he
    rw [if_neg he] at hfl
    simp only [Bool.false_eq_true, if_false]
    split
    · rename_i hq
      rw [← hfl, hq]
      rfl
    · rw [← hfl]

/-- A positive quotient equal to `N / D`, with `N` below `2 ^ 53` and `D` at most `2 ^ 52`,
rounds to a finite double of the same sign whose value has the floor `N / D`. -/
theorem round_fields {neg : Bool} {n d N D : Nat} (hn : 0 < n) (hd : 0 < d)
    (hq : (n : ℚ) / d = N / D) (hN : N < 2 ^ 53) (hD : 0 < D) (hD52 : D ≤ 2 ^ 52) :
    ∃ m e, ofDouble (round neg n d) = .finite neg m e ∧ 0 < m ∧
      ⌊value false m e⌋ = ((N / D : Nat) : Int) := by
  have hDq : (0 : ℚ) < D := by exact_mod_cast hD
  have hNq : (N : ℚ) < 2 ^ 53 := by exact_mod_cast hN
  have hqpos : (0 : ℚ) < N / D := by rw [← hq]; positivity
  have hD1 : (1 : ℚ) ≤ D := by exact_mod_cast hD
  have hN1 : (1 : ℚ) ≤ N := by
    have : 0 < N := by
      have : (0 : ℚ) < N := (div_pos_iff_of_pos_right hDq).1 hqpos
      exact_mod_cast this
    exact_mod_cast this
  have hLle : floorLog2 n d ≤ 52 := by
    have : floorLog2 n d < 53 := by
      apply floorLog2_lt hn hd
      rw [hq, div_lt_iff₀ hDq]
      calc (N : ℚ) < 2 ^ 53 := hNq
        _ ≤ 2 ^ (53 : Int) * D := by norm_num; linarith
    omega
  have hLge : -52 ≤ floorLog2 n d := by
    apply le_floorLog2 hn hd
    rw [hq, le_div_iff₀ hDq]
    have hD52q : (D : ℚ) ≤ 2 ^ 52 := by exact_mod_cast hD52
    calc (2 : ℚ) ^ (-52 : Int) * D ≤ 2 ^ (-52 : Int) * 2 ^ 52 := by gcongr
      _ = 1 := by norm_num
      _ ≤ N := hN1
  obtain ⟨r, hnear, -, hcases⟩ := @round_normal neg n d hn hd (by simp only [minExp]; omega)
  rcases hcases with ⟨-, hbig⟩ | ⟨m, e, hx, hm, hval⟩
  · simp only [maxExp] at hbig
    omega
  refine ⟨m, e, hx, hm, ?_⟩
  -- the value is `r / T` on the grid of step `1 / T`, `T = 2 ^ (52 - L)`
  have hT : (2 : ℚ) ^ (-(floorLog2 n d - 52)) = ((2 ^ (-(floorLog2 n d - 52)).toNat : Nat) : ℚ) := by
    rw [two_zpow_of_nonneg (by omega)]
    push_cast
    rfl
  have hv : value false m e = (r : ℚ) / ((2 ^ (-(floorLog2 n d - 52)).toNat : Nat) : ℚ) := by
    simp only [value, Bool.false_eq_true, if_false]
    rw [hval, ← hT, zpow_neg, div_inv_eq_mul]
  rw [hv]
  refine floor_of_near hD (by positivity) ?_ (by rw [← hT, ← hq]; exact hnear)
  have hlow : (2 : ℚ) ^ floorLog2 n d * D ≤ N := by
    rw [← le_div_iff₀ hDq, ← hq]
    exact (floorLog2_spec hn hd).1
  have h53 : (2 : ℚ) ^ floorLog2 n d * (2 * 2 ^ (-(floorLog2 n d - 52))) = 2 ^ 53 := by
    rw [mul_left_comm, ← zpow_add₀ two_ne_zero]
    ring_nf
    norm_num
  have hlt : (D : ℚ) < 2 * 2 ^ (-(floorLog2 n d - 52)) := by
    by_contra hge
    rw [not_lt] at hge
    have := mul_le_mul_of_nonneg_left hge (by positivity : (0 : ℚ) ≤ 2 ^ floorLog2 n d)
    rw [h53] at this
    linarith
  rw [hT] at hlt
  exact_mod_cast hlt

theorem add_zero_left {c : Int} (hc : c.natAbs ≤ 2 ^ 53) (neg : Bool) :
    add (zero neg) (ofInt c) = ofInt c := by
  obtain ⟨m, e, hx, -, hvc⟩ := ofDouble_ofInt hc
  refine add_eq_ofInt (ofDouble_zero neg) hx (by rw [hvc]; simp [value]) hc fun h0 => ?_
  simp [h0]

theorem floor_zero (neg : Bool) : floor (zero neg) = zero neg := by
  have hneg : ¬ (minExp ≥ 0) := by simp [minExp]
  unfold floor
  rw [ofDouble_zero]
  cases neg <;> simp [hneg]

/-- Integers of at most `2 ^ 53` compare as doubles as they compare as integers. -/
theorem compare?_ofInt {p q : Int} (hp : p.natAbs ≤ 2 ^ 53) (hq : q.natAbs ≤ 2 ^ 53) :
    compare? (ofInt p) (ofInt q) = some (compare p q) := by
  obtain ⟨m, e, hx, -, hvp⟩ := ofDouble_ofInt hp
  obtain ⟨n, f, hy, -, hvq⟩ := ofDouble_ofInt hq
  rw [compare?_eq hx hy, hvp, hvq, compare_intCast]

theorem lt_ofInt {p q : Int} (hp : p.natAbs ≤ 2 ^ 53) (hq : q.natAbs ≤ 2 ^ 53) :
    lt (ofInt p) (ofInt q) = decide (p < q) := by
  unfold lt
  rw [compare?_ofInt hp hq, Bool.eq_iff_iff]
  simp [compare_lt_iff_lt]

theorem eq_ofInt {p q : Int} (hp : p.natAbs ≤ 2 ^ 53) (hq : q.natAbs ≤ 2 ^ 53) :
    eq (ofInt p) (ofInt q) = decide (p = q) := by
  unfold eq
  rw [compare?_ofInt hp hq, Bool.eq_iff_iff]
  simp

theorem le_ofInt {p q : Int} (hp : p.natAbs ≤ 2 ^ 53) (hq : q.natAbs ≤ 2 ^ 53) :
    le (ofInt p) (ofInt q) = decide (p ≤ q) := by
  rw [le, lt_ofInt hp hq, eq_ofInt hp hq]
  simp [le_iff_lt_or_eq]

/-- A finite double of a non-zero mantissa is below zero exactly when it is negative. -/
theorem lt_zero_of_finite {x : Double} {neg : Bool} {m : Nat} {e : Int}
    (hx : ofDouble x = .finite neg m e) (hm : 0 < m) : lt x (ofInt 0) = neg := by
  have hpos : (0 : ℚ) < m * 2 ^ e := by positivity
  unfold lt
  rw [compare?_eq hx ofDouble_ofInt_zero]
  cases neg with
  | false => simp [value, compare_gt_iff_gt.2 hpos]
  | true => simp [value, compare_lt_iff_lt.2 (neg_neg_of_pos hpos)]

/-- A natural number compared with an integer of at most `2 ^ 53`, both as doubles: a number
past `2 ^ 53` rounds to `2 ^ 53` or above, or to infinity, and is never below. -/
theorem lt_ofNat_ofInt (limit : Nat) {k : Int} (hk : 0 ≤ k) (hk53 : k ≤ 2 ^ 53) :
    lt (ofInt limit) (ofInt k) = decide ((limit : Int) < k) := by
  by_cases hl : limit ≤ 2 ^ 53
  · exact lt_ofInt (by simpa using hl) (by omega)
  rw [not_le] at hl
  rw [decide_eq_false (by omega)]
  obtain ⟨n, f, hy, -, hvk⟩ := ofDouble_ofInt (z := k) (by omega)
  have hround : ofInt (limit : Int) = round false limit 1 := by
    rw [ofInt, Binary.ofInt, decide_eq_false (show ¬ (limit : Int) < 0 by omega),
      Int.natAbs_natCast]
  have hL : 53 ≤ floorLog2 limit 1 :=
    le_floorLog2 (by omega) Nat.one_pos (by norm_num; exact_mod_cast hl.le)
  obtain ⟨r, -, hr, hcases⟩ := @round_normal false limit 1 (by omega)
    Nat.one_pos (by simp only [minExp]; omega)
  rw [hround]
  rcases hcases with ⟨hinf, -⟩ | ⟨m, e, hx, -, hval⟩
  · rw [hinf]
    unfold lt compare?
    rw [show ofDouble (Binary.infinity false) = .inf false by decide, hy]
    rfl
  · have hbig : (2 : ℚ) ^ 53 ≤ value false m e := by
      simp only [value, Bool.false_eq_true, if_false]
      rw [hval]
      have hr' : (2 : ℚ) ^ 52 ≤ r := by exact_mod_cast hr
      have hp : (2 : ℚ) ≤ 2 ^ (floorLog2 limit 1 - 52) := by
        calc (2 : ℚ) = 2 ^ (1 : Int) := by norm_num
          _ ≤ _ := zpow_le_zpow_right₀ one_le_two (by omega)
      calc (2 : ℚ) ^ 53 = 2 ^ 52 * 2 := by norm_num
        _ ≤ (r : ℚ) * 2 ^ (floorLog2 limit 1 - 52) := by gcongr
    have hkq : (k : ℚ) ≤ 2 ^ 53 := by exact_mod_cast hk53
    unfold lt
    rw [compare?_eq hx hy, hvk]
    simp [compare_lt_iff_lt, hkq.trans hbig]

/-- A natural number of at most `2 ^ 53` is read back as a machine word. -/
theorem toUInt64_ofInt {k : Int} (hk : 0 ≤ k) (hk53 : k ≤ 2 ^ 53) : toUInt64 (ofInt k) = k := by
  obtain ⟨m, e, hx, -, hv⟩ := ofDouble_ofInt (z := k) (by omega)
  unfold toUInt64 saturate
  rw [hx]
  dsimp only
  rw [trunc?_of_nonneg hx (by rw [hv]; exact_mod_cast hk), hv, Int.floor_intCast]
  simp only [Option.getD_some]
  omega

end Number

end ScriptLib
