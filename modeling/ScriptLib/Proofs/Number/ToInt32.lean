import ScriptLib.Proofs.Number.Integers
import ScriptLib.Heap.Hash
import Mathlib

/-!
# The 32-bit word of a number

The 32-bit word of a number is computed in doubles (`Number.toInt32`): the integer part
`trunc x`, its remainder by `2 ^ 32` made non-negative, a comparison with `2 ^ 31`, a
subtraction of `2 ^ 32` and a cast. Every step is exact, so the word is the integer part of the
value, rounded toward zero, wrapped around into `[-2 ^ 31, 2 ^ 31)`: the one integer of that
range congruent to it modulo `2 ^ 32` (`toInt32_of_value?`, `toInt32_eq_iff`). NaN and the
infinities give 0.

* `trunc` gives the rounding toward zero of the value, a negative number through the floor of
  its magnitude (`value?_trunc`).
* The remainder of two doubles of integer values is their truncated remainder however far past
  `2 ^ 53` the dividend lies: on the grid of the smaller exponent both magnitudes are natural
  numbers, and the remainder of the scaled magnitudes is the scaled remainder (`mod_scaled`,
  `value?_rem`). A zero remainder keeps the sign of the dividend, and a negative zero is not
  below zero, so made non-negative the remainder is the Euclidean one (`value?_remEuclid`).
* Below `2 ^ 32` the comparison, the subtraction and the cast are exact; `2 ^ 31` is the least
  number taken down, to `-2 ^ 31`, and `2 ^ 32` gives 0.

Mixing a number into a hash from offset 0 adds it to zero in doubles first. That sum is the
number itself, for a value that is an integer and for one that is a fraction over a power of
two alike (`addInt_zero`), so a number hashes to its 32-bit word at every depth, and a
boolean to 1 or 0 (`hash_num`, `hash_bool`).
-/

namespace ScriptLib

namespace Number

open Binary

/-- The integer part of a rational, rounded toward zero: the floor of a non-negative value,
the ceiling of a negative one. -/
def towardZero (q : ℚ) : Int :=
  if 0 ≤ q then ⌊q⌋ else ⌈q⌉

theorem towardZero_intCast (z : Int) : towardZero z = z := by
  unfold towardZero
  split <;> simp

theorem towardZero_neg (q : ℚ) : towardZero (-q) = -towardZero q := by
  unfold towardZero
  rcases lt_trichotomy q 0 with hq | rfl | hq
  · rw [if_pos (by linarith), if_neg (not_le.2 hq), Int.floor_neg]
  · simp
  · rw [if_neg (by linarith), if_pos hq.le, Int.ceil_neg]

/-! ## Doubles of known value -/

theorem exists_fields_of_value? {x : Double} {q : ℚ} (hq : value? x = some q) :
    ∃ neg m e, ofDouble x = .finite neg m e ∧ value neg m e = q := by
  unfold value? at hq
  split at hq
  · exact ⟨_, _, _, ‹_›, Option.some.inj hq⟩
  · cases hq

theorem isFinite_of_value? {x : Double} {q : ℚ} (hq : value? x = some q) : isFinite x = true := by
  obtain ⟨neg, m, e, hx, -⟩ := exists_fields_of_value? hq
  simp [isFinite, hx]

theorem value?_neg {x : Double} {q : ℚ} (hq : value? x = some q) : value? (neg x) = some (-q) := by
  obtain ⟨s, m, e, hx, rfl⟩ := exists_fields_of_value? hq
  rw [neg, value?_of_finite (ofDouble_negate hx), value_not]

theorem lt_of_value? {x y : Double} {p q : ℚ} (hx : value? x = some p) (hy : value? y = some q) :
    lt x y = decide (p < q) := by
  obtain ⟨a, m, e, hx', rfl⟩ := exists_fields_of_value? hx
  obtain ⟨b, n, f, hy', rfl⟩ := exists_fields_of_value? hy
  unfold lt
  rw [compare?_eq hx' hy', Bool.eq_iff_iff]
  simp [compare_lt_iff_lt]

theorem le_of_value? {x y : Double} {p q : ℚ} (hx : value? x = some p) (hy : value? y = some q) :
    le x y = decide (p ≤ q) := by
  obtain ⟨a, m, e, hx', rfl⟩ := exists_fields_of_value? hx
  obtain ⟨b, n, f, hy', rfl⟩ := exists_fields_of_value? hy
  unfold le lt eq
  rw [compare?_eq hx' hy', Bool.eq_iff_iff]
  simp [compare_lt_iff_lt, le_iff_lt_or_eq]

/-- A sum of doubles of integer values is exact up to `2 ^ 53`; a zero sum is a zero of either
sign. -/
theorem value?_add {x y : Double} {a b : Int} (hx : value? x = some (a : ℚ))
    (hy : value? y = some (b : ℚ)) (hab : (a + b).natAbs ≤ 2 ^ 53) :
    value? (add x y) = some ((a + b : Int) : ℚ) := by
  obtain ⟨s, m, e, hx, hva⟩ := exists_fields_of_value? hx
  obtain ⟨t, n, f, hy, hvb⟩ := exists_fields_of_value? hy
  have hs := scaled_add_eq_value s t m n e f
  rw [hva, hvb, ← Int.cast_add] at hs
  unfold add
  rw [hx, hy]
  dsimp only
  split
  · rename_i h0
    have hz : a + b = 0 := by
      rw [h0, Int.cast_zero] at hs
      exact_mod_cast (mul_eq_zero.1 hs.symm).resolve_right (by positivity)
    rw [value?_of_finite (ofDouble_zero _), hz]
    simp [value]
  · rw [ofScaled_eq_ofInt hs ‹_› hab]
    exact value?_ofInt hab

theorem value?_sub {x y : Double} {a b : Int} (hx : value? x = some (a : ℚ))
    (hy : value? y = some (b : ℚ)) (hab : (a - b).natAbs ≤ 2 ^ 53) :
    value? (sub x y) = some ((a - b : Int) : ℚ) := by
  obtain ⟨s, m, e, hx', -⟩ := exists_fields_of_value? hx
  obtain ⟨t, n, f, hy', -⟩ := exists_fields_of_value? hy
  have hny : value? (neg y) = some ((-b : Int) : ℚ) := by rw [value?_neg hy, Int.cast_neg]
  unfold sub
  rw [isNaN_of_finite hx', isNaN_of_finite hy', if_neg Bool.false_ne_true,
    if_neg Bool.false_ne_true, Int.sub_eq_add_neg]
  exact value?_add hx hny (by rwa [← Int.sub_eq_add_neg])

/-- A double of positive value is its own magnitude. -/
theorem abs_of_value?_pos {x : Double} {q : ℚ} (hq : value? x = some q) (hpos : 0 < q) :
    abs x = x := by
  obtain ⟨s, m, e, hx, rfl⟩ := exists_fields_of_value? hq
  have hs : s = false := by
    cases s
    · rfl
    · have : (0 : ℚ) ≤ m * 2 ^ e := by positivity
      simp only [value, if_true] at hpos
      linarith
  have hbit := signBit_of_finite hx
  rw [hs] at hbit
  unfold signBit at hbit
  unfold abs
  rw [Nat.mod_eq_of_lt (by simpa using hbit), toDouble_bits]

/-! ## The integer part -/

/-- Doubles of one mantissa and exponent and opposite signs have opposite integer parts. -/
theorem trunc?_of_opposite {x y : Double} {m : Nat} {e : Int}
    (hx : ofDouble x = .finite true m e) (hy : ofDouble y = .finite false m e) :
    trunc? x = (trunc? y).map Neg.neg := by
  unfold trunc?
  rw [hx, hy]
  dsimp only
  rw [if_pos rfl, if_neg Bool.false_ne_true, Option.map_some]

/-- The integer part of a finite double is the rounding toward zero of its value. -/
theorem trunc?_eq_towardZero {x : Double} {q : ℚ} (hq : value? x = some q) :
    trunc? x = some (towardZero q) := by
  unfold value? at hq
  split at hq
  · rename_i neg m e hx
    cases Option.some.inj hq
    by_cases hq0 : 0 ≤ value neg m e
    · rw [trunc?_of_nonneg hx hq0, towardZero, if_pos hq0]
    · -- a negative value has a negative sign: flip it, and negate the floor of the magnitude
      have hneg : neg = true := by
        cases neg
        · exact absurd (by simp only [value, Bool.false_eq_true, if_false]; positivity) hq0
        · rfl
      subst hneg
      have hflip : ofDouble (negate x) = .finite false m e := ofDouble_negate hx
      have hmag : trunc? (negate x) = some ⌊value false m e⌋ :=
        trunc?_of_nonneg hflip (by simp only [value, Bool.false_eq_true, if_false]; positivity)
      rw [trunc?_of_opposite hx hflip, hmag, towardZero, if_neg hq0, show value true m e = -value false m e from
        value_not false m e, Int.ceil_neg, Option.map_some]
  · cases hq

/-- The floor of a double of positive sign is the floor of its value: the number itself when
its exponent makes it an integer, otherwise an integer below `2 ^ 53`. -/
theorem value?_floor {x : Double} {m : Nat} {e : Int} (hx : ofDouble x = .finite false m e) :
    value? (floor x) = some (⌊value false m e⌋ : ℚ) := by
  by_cases he : 0 ≤ e
  · have hfloor : floor x = x := by
      unfold floor
      rw [hx]
      exact if_pos he
    have hint : value false m e = ((m * 2 ^ e.toNat : Nat) : ℚ) := by
      simp [value, two_zpow_of_nonneg he]
    rw [hfloor, value?_of_finite hx, hint, Int.floor_natCast, Int.cast_natCast]
  · have hle : value false m e ≤ m := by
      simp only [value, Bool.false_eq_true, if_false]
      exact mul_le_of_le_one_right (Nat.cast_nonneg m) (zpow_le_one_of_nonpos₀ one_le_two (by omega))
    have hm : m < 2 ^ 53 := by
      have := (canonical_of_ofBits hx).1
      simp only [fractionCount] at this
      omega
    have hbound : ⌊value false m e⌋.natAbs ≤ 2 ^ 53 := by
      have h0 : 0 ≤ ⌊value false m e⌋ :=
        Int.floor_nonneg.2 (by simp only [value, Bool.false_eq_true, if_false]; positivity)
      have h1 : ⌊value false m e⌋ < 2 ^ 53 :=
        Int.floor_lt.2 (lt_of_le_of_lt hle (by exact_mod_cast hm))
      omega
    rw [floor_of_nonneg hx, value?_ofInt hbound]

/-- `trunc` keeps the rounding toward zero of the value of a finite double; a negative number
is truncated through the floor of its magnitude. -/
theorem value?_trunc {x : Double} {q : ℚ} (hq : value? x = some q) :
    value? (trunc x) = some (towardZero q : ℚ) := by
  obtain ⟨s, m, e, hx, rfl⟩ := exists_fields_of_value? hq
  have hmag : 0 ≤ value false m e := by
    simp only [value, Bool.false_eq_true, if_false]
    positivity
  unfold trunc
  rw [signBit_of_finite hx]
  cases s with
  | false => rw [if_neg Bool.false_ne_true, value?_floor hx, towardZero, if_pos hmag]
  | true =>
    rw [if_pos rfl, value?_neg (value?_floor (show ofDouble (neg x) = .finite false m e from
      ofDouble_negate hx)),
      show value true m e = -value false m e from value_not false m e, towardZero_neg,
      towardZero, if_pos hmag, Int.cast_neg]

/-- The cast of a double of integer value to a 32-bit word clamps the integer. -/
theorem castInt32_of_value? {x : Double} {z : Int} (hz : value? x = some (z : ℚ)) :
    castInt32 x = max (-2147483648) (min 2147483647 z) := by
  obtain ⟨s, m, e, hx, -⟩ := exists_fields_of_value? hz
  unfold castInt32 saturate
  rw [hx]
  dsimp only
  rw [trunc?_eq_towardZero hz, towardZero_intCast]
  rfl

/-! ## The remainder -/

/-- The truncated remainder has the sign of the dividend. -/
theorem tmod_eq_scaled (p d : Int) : p.tmod d = scaled (decide (p < 0)) (p.tmod d).natAbs := by
  unfold scaled
  by_cases hp : p < 0
  · have h := Int.tmod_nonneg d (show 0 ≤ -p by omega)
    rw [Int.neg_tmod] at h
    rw [if_pos (decide_eq_true hp)]
    omega
  · have h := Int.tmod_nonneg d (not_lt.1 hp)
    rw [if_neg (by simpa using hp)]
    omega

/-- The Euclidean remainder by a positive divisor is the truncated one, moved up by the
divisor when it is negative. -/
theorem emod_eq_tmod_add {p d : Int} (hd : 0 < d) :
    p % d = if p.tmod d < 0 then p.tmod d + d else p.tmod d := by
  have hsign := tmod_eq_scaled p d
  rw [Int.emod_eq_tmod]
  by_cases hdvd : d ∣ p
  · simp [hdvd, Int.tmod_eq_zero_of_dvd hdvd]
  · have h0 : p.tmod d ≠ 0 := fun h => hdvd (Int.dvd_of_tmod_eq_zero h)
    unfold scaled at hsign
    simp only [hdvd, or_false, decide_eq_true_eq] at hsign ⊢
    split_ifs at hsign ⊢ <;> omega

theorem natAbs_scaled (neg : Bool) (m : Nat) : (scaled neg m).natAbs = m := by
  cases neg <;> simp [scaled]

/-- The magnitude of a finite double of integer value `p`, on the grid of a lower exponent
`k`, is `|p| · 2 ^ (-k)`. -/
theorem magnitude_scaled {s : Bool} {m : Nat} {e k p : Int} (hk : k ≤ e) (hp : value s m e = p) :
    ((m * 2 ^ (e - k).toNat : Nat) : ℚ) = p.natAbs * 2 ^ (-k) := by
  have hnat : m * 2 ^ (e - k).toNat = (scaled s m * 2 ^ (e - k).toNat).natAbs := by
    rw [Int.natAbs_mul, natAbs_scaled, Int.natAbs_pow]
    rfl
  rw [hnat, Nat.cast_natAbs, Nat.cast_natAbs, Int.cast_abs, Int.cast_abs,
    scaled_mul_eq_value s m hk, hp, abs_mul, abs_of_pos (show (0 : ℚ) < 2 ^ (-k) by positivity)]

/-- Magnitudes scaled by one power of two have their remainder scaled by it. -/
theorem mod_scaled {A D P Q : Nat} {k : Int} (hA : (A : ℚ) = P * 2 ^ k)
    (hD : (D : ℚ) = Q * 2 ^ k) : ((A % D : Nat) : ℚ) = ((P % Q : Nat) : ℚ) * 2 ^ k := by
  rcases le_or_gt 0 k with hk | hk
  · rw [two_zpow_of_nonneg hk] at hA hD ⊢
    have hA' : A = P * 2 ^ k.toNat := by exact_mod_cast hA
    have hD' : D = Q * 2 ^ k.toNat := by exact_mod_cast hD
    rw [hA', hD', Nat.mul_mod_mul_right]
    push_cast
    rfl
  · rw [two_zpow_of_neg hk] at hA hD ⊢
    have hpow : (0 : ℚ) < 2 ^ (-k).toNat := by positivity
    have hP : P = A * 2 ^ (-k).toNat := by
      have : (P : ℚ) = A * 2 ^ (-k).toNat := by rw [hA]; field_simp
      exact_mod_cast this
    have hQ : Q = D * 2 ^ (-k).toNat := by
      have : (Q : ℚ) = D * 2 ^ (-k).toNat := by rw [hD]; field_simp
      exact_mod_cast this
    rw [hP, hQ, Nat.mul_mod_mul_right]
    push_cast
    field_simp

/-- The remainder of doubles of integer values `p` and `d` is the truncated remainder
`p.tmod d`, exact however large `p` is, for `d` of at most `2 ^ 53`. -/
theorem value?_rem {x y : Double} {p d : Int} (hx : value? x = some (p : ℚ))
    (hy : value? y = some (d : ℚ)) (hd : d ≠ 0) (hd53 : d.natAbs ≤ 2 ^ 53) :
    value? (rem x y) = some ((p.tmod d : Int) : ℚ) := by
  obtain ⟨a, m, e, hx', hp⟩ := exists_fields_of_value? hx
  obtain ⟨b, n, f, hy', hd'⟩ := exists_fields_of_value? hy
  have hn : n ≠ 0 := by
    rintro rfl
    simp only [value, Nat.cast_zero, neg_zero, ite_self, zero_mul] at hd'
    exact hd (by exact_mod_cast hd'.symm)
  -- on the grid of the smaller exponent the remainder is that of the magnitudes, scaled
  have hr := mod_scaled (magnitude_scaled (min_le_left e f) hp)
    (magnitude_scaled (min_le_right e f) hd')
  rw [← Int.natAbs_tmod] at hr
  have hbound : (p.tmod d).natAbs ≤ 2 ^ 53 := by
    rw [Int.natAbs_tmod]
    exact (Nat.mod_lt _ (Int.natAbs_pos.2 hd)).le.trans hd53
  unfold rem
  rw [hx', hy']
  dsimp only
  rw [if_neg hn]
  split
  · rename_i h0
    have ht : p.tmod d = 0 := by
      rw [h0, Nat.cast_zero] at hr
      have := (mul_eq_zero.1 hr.symm).resolve_right (by positivity)
      exact Int.natAbs_eq_zero.1 (by exact_mod_cast this)
    rw [value?_of_finite (ofDouble_zero a), ht]
    simp [value]
  · rename_i h0
    have hm : 0 < m := Nat.pos_of_ne_zero (by rintro rfl; simp at h0)
    obtain ⟨rfl, -⟩ := value_eq_int hm hp
    generalize m * 2 ^ (e - min e f).toNat % (n * 2 ^ (f - min e f).toNat) = r at hr h0 ⊢
    have hs0 : scaled (decide (p < 0)) r ≠ 0 := by
      unfold scaled
      split <;> omega
    refine (congrArg value? (ofScaled_eq_ofInt ?_ hs0 hbound)).trans (value?_ofInt hbound)
    rw [tmod_eq_scaled p d]
    generalize (p.tmod d).natAbs = N at hr
    unfold scaled
    split
    · push_cast
      rw [hr]
      ring
    · push_cast
      rw [hr]

/-- The remainder made non-negative, of doubles of integer values `p` and `d` with
`0 < d ≤ 2 ^ 53`, is the Euclidean remainder `p % d`: a negative remainder is moved up by `d`
exactly, and a zero one of either sign is not below zero. -/
theorem value?_remEuclid {x y : Double} {p d : Int} (hx : value? x = some (p : ℚ))
    (hy : value? y = some (d : ℚ)) (hd : 0 < d) (hd53 : d ≤ 2 ^ 53) :
    value? (remEuclid x y) = some ((p % d : Int) : ℚ) := by
  have hr := value?_rem hx hy hd.ne' (by omega)
  have hlo := Int.lt_tmod_of_pos p hd
  have hhi := Int.tmod_lt_of_pos p hd
  have hzero : value? (ofInt 0) = some ((0 : Int) : ℚ) := value?_ofInt (by norm_num)
  unfold remEuclid
  dsimp only
  rw [lt_of_value? hr hzero, emod_eq_tmod_add hd]
  by_cases hneg : p.tmod d < 0
  · have hcast : ((p.tmod d : Int) : ℚ) < ((0 : Int) : ℚ) := by exact_mod_cast hneg
    rw [decide_eq_true hcast, if_pos rfl, if_pos hneg, abs_of_value?_pos hy (by exact_mod_cast hd),
      value?_add hr hy (by omega)]
  · have hcast : ¬ ((p.tmod d : Int) : ℚ) < ((0 : Int) : ℚ) := by exact_mod_cast hneg
    rw [decide_eq_false hcast, if_neg Bool.false_ne_true, if_neg hneg, hr]

/-! ## The 32-bit word -/

/-- The remainder that the 32-bit word starts from is the Euclidean remainder of the integer
part by `2 ^ 32`, exactly. -/
theorem remEuclid_trunc_of_value? {x : Double} {q : ℚ} (hq : value? x = some q) :
    value? (remEuclid (trunc x) (ofInt 4294967296)) = some ((towardZero q % 2 ^ 32 : Int) : ℚ) :=
  value?_remEuclid (value?_trunc hq) (value?_ofInt (by norm_num)) (by norm_num) (by norm_num)

theorem wrap32_eq (t : Int) :
    wrap32 t = if t % 4294967296 < 2147483648 then t % 4294967296 else t % 4294967296 - 4294967296 :=
  rfl

/-- The 32-bit word of a finite number is the integer part of its value wrapped into
`[-2 ^ 31, 2 ^ 31)`. -/
theorem toInt32_of_value? {x : Double} {q : ℚ} (hq : value? x = some q) :
    toInt32 x = wrap32 (towardZero q) := by
  have hw := remEuclid_trunc_of_value? hq
  have hw0 := Int.emod_nonneg (towardZero q) (by norm_num : (2 : Int) ^ 32 ≠ 0)
  have hw1 := Int.emod_lt_of_pos (towardZero q) (by norm_num : (0 : Int) < 2 ^ 32)
  have htwo : value? (ofInt 4294967296) = some ((4294967296 : Int) : ℚ) := value?_ofInt (by norm_num)
  unfold toInt32
  rw [if_pos (isFinite_of_value? hq)]
  dsimp only
  have h32 : (2 : Int) ^ 32 = 4294967296 := by norm_num
  rw [h32] at hw hw0 hw1
  rw [le_of_value? (value?_ofInt (z := 2147483648) (by norm_num)) hw, wrap32_eq]
  generalize towardZero q % 4294967296 = w at hw hw0 hw1 ⊢
  by_cases hup : 2147483648 ≤ w
  · have hcast : ((2147483648 : Int) : ℚ) ≤ ((w : Int) : ℚ) := by exact_mod_cast hup
    rw [decide_eq_true hcast, if_pos rfl, castInt32_of_value? (value?_sub hw htwo (by omega)),
      if_neg (by omega)]
    omega
  · have hcast : ¬ ((2147483648 : Int) : ℚ) ≤ ((w : Int) : ℚ) := by exact_mod_cast hup
    rw [decide_eq_false hcast, if_neg Bool.false_ne_true, castInt32_of_value? hw, if_pos (by omega)]
    omega

example : toInt32 (ofInt 2147483648) = -2147483648 := by
  rw [toInt32_of_value? (value?_ofInt (by norm_num)), towardZero_intCast]
  rfl

example : toInt32 (ofInt 4294967296) = 0 := by
  rw [toInt32_of_value? (value?_ofInt (by norm_num)), towardZero_intCast]
  rfl

/-- NaN and the infinities have the 32-bit word 0. -/
theorem toInt32_of_not_finite {x : Double} (hx : isFinite x = false) : toInt32 x = 0 := by
  rw [toInt32, if_neg (by simp [hx])]

/-- The 32-bit word of a finite double is the one integer of `[-2 ^ 31, 2 ^ 31)` congruent to
the integer part of its value modulo `2 ^ 32`. -/
theorem toInt32_eq_iff {x : Double} {q : ℚ} (hq : value? x = some q) (z : Int) :
    toInt32 x = z ↔ -2 ^ 31 ≤ z ∧ z < 2 ^ 31 ∧ z ≡ towardZero q [ZMOD 2 ^ 32] := by
  rw [toInt32_of_value? hq, wrap32, Int.bmod_eq_iff (by decide), Int.modEq_comm,
    Int.modEq_iff_dvd]
  norm_num

/-! ## Hashes of scalars -/

/-- Adding a number to zero in doubles gives the number back, unless it is a zero. -/
theorem addInt_zero {x : Double} {neg : Bool} {m : Nat} {e : Int}
    (hx : ofDouble x = .finite neg m e) (hm : 0 < m) : addInt 0 x = x := by
  unfold addInt
  rw [hx]
  dsimp only
  have hsign : decide ((if neg then -(m : Int) else m) < 0) = neg := by
    cases neg <;> simp [hm]
  have habs : (if neg then -(m : Int) else m).natAbs = m := by
    cases neg <;> simp
  split
  · rename_i he
    rw [Int.zero_add]
    refine (eq_ofInt_of_value hx hm ?_).symm
    rw [value, two_zpow_of_nonneg he]
    cases neg <;> push_cast <;> ring
  · rename_i he
    rw [Int.zero_mul, Int.zero_add, if_neg (by cases neg <;> simp <;> omega), hsign, habs,
      ← toDouble_finiteBits hx]
    refine round_eq_of_value hm (by positivity) (canonical_of_ofBits hx) hm (exp_le_of_ofBits hx) ?_
    rw [two_zpow_of_neg (by omega), Nat.cast_pow, Nat.cast_ofNat, mul_one_div]

/-- Mixing a number into a hash from offset 0 gives its 32-bit word. -/
theorem mixHash_zero (x : Double) : mixHash x 0 = toInt32 x := by
  have hoffset : wrap32 (0 * 32) - 0 = 0 := by simp [wrap32]
  unfold mixHash
  rw [hoffset]
  split
  · rename_i neg e hx
    rw [toInt32_of_value? (value?_of_finite hx)]
    simp [value, towardZero, wrap32]
  · rename_i hnz
    cases hx : ofDouble x with
    | nan => simp [addInt, hx]
    | inf => simp [addInt, hx]
    | finite neg m e =>
      have hm : 0 < m := Nat.pos_of_ne_zero fun h => hnz neg e (h ▸ hx)
      rw [addInt_zero hx hm]

end Number

namespace Heap

/-- A number hashes to its 32-bit word, at every depth. -/
theorem hash_num (h : Heap) (x : Double) (depth : Int) : h.hash (.num x) depth = Number.toInt32 x := by
  rw [hash, hashAt, Number.mixHash_zero]

/-- A boolean hashes to 1 or 0, at every depth. -/
theorem hash_bool (h : Heap) (b : Bool) (depth : Int) : h.hash (.bool b) depth = if b then 1 else 0 := by
  have hbit : Number.value? (Number.ofInt (if b then 1 else 0)) = some ((if b then 1 else 0 : Int) : ℚ) :=
    Number.value?_ofInt (by split <;> norm_num)
  rw [hash, hashAt, Number.mixHash_zero, Number.toInt32_of_value? hbit, Number.towardZero_intCast]
  cases b <;> rfl

end Heap

namespace Number

/-- The 32-bit word of a number, as the hash of scalars uses it: NaN and the infinities give
0; for a finite number the remainder of its integer part by `2 ^ 32`, made non-negative in
doubles, is exactly the Euclidean remainder, whatever the size of the number, and the word is
the one integer of `[-2 ^ 31, 2 ^ 31)` congruent modulo `2 ^ 32` to the integer part of its
value, rounded toward zero. A number hashes to its 32-bit word and a boolean to 1 or 0, at
every depth. -/
theorem toInt32_wraps_the_integer_part (x : Double) :
    (isFinite x = false → toInt32 x = 0) ∧
    (∀ q, value? x = some q →
      value? (remEuclid (trunc x) (ofInt 4294967296)) = some ((towardZero q % 2 ^ 32 : Int) : ℚ) ∧
      ∀ z : Int, toInt32 x = z ↔ -2 ^ 31 ≤ z ∧ z < 2 ^ 31 ∧ z ≡ towardZero q [ZMOD 2 ^ 32]) ∧
    (∀ (h : Heap) (depth : Int), h.hash (.num x) depth = toInt32 x) ∧
    (∀ (h : Heap) (depth : Int) (b : Bool), h.hash (.bool b) depth = if b then 1 else 0) :=
  ⟨toInt32_of_not_finite, fun _ hq => ⟨remEuclid_trunc_of_value? hq, toInt32_eq_iff hq⟩,
    fun h => h.hash_num x, fun h depth b => h.hash_bool b depth⟩

end Number

end ScriptLib
