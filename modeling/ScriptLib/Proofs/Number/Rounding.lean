import ScriptLib.Proofs.Heap.Slot
import Mathlib.Algebra.Order.Field.Power
import Mathlib.Data.Rat.Cast.Order
import Mathlib.Tactic.FieldSimp
import Mathlib.Tactic.GCongr
import Mathlib.Tactic.Linarith
import Mathlib.Tactic.NormNum
import Mathlib.Tactic.Positivity
import Mathlib.Tactic.Ring

/-!
# Rounding to the nearest double

`Binary.round neg n d` gives the double nearest to `± n / d`. Its three steps are read
here as exact arithmetic on rationals: `floorLog2` is `⌊log₂ (n / d)⌋` (`floorLog2_spec`),
`scaledRound` rounds `n / d · 2 ^ (-e)` to the nearest natural number with ties to even
(`scaledRound_eq`), and a mantissa that rounds up to `2 ^ 53` carries into the next binade.

`RoundsTo m e q` says which rationals belong to the positive double of fields `m` and `e`:
the interval of half a unit in the last place on either side (a quarter below, at the least
mantissa of a binade above the subnormals), with its ends when `m` is even. Every positive
quotient in that interval is rounded to that double (`round_eq_of_roundsTo`). Past
`2 ^ 1024` a quotient rounds to infinity, at or below `2 ^ (-1076)` to zero, and rounding
never gives a NaN.

The pattern of a finite double and its fields correspond one to one (`ofBits_finiteBits`,
`toDouble_finiteBits`).
-/

namespace ScriptLib

namespace Binary

/-! ## Rounding to the nearest natural number -/

/-- Rounding to the nearest natural number, a tie to the even one: `r` is the rounding of
`n / d` when it is at most half a unit away, and even when exactly half. -/
theorem roundHalfEven_eq {n d r : Nat} (hd : 0 < d) (hlo : 2 * r * d ≤ 2 * n + d)
    (hhi : 2 * n ≤ (2 * r + 1) * d)
    (htie : 2 * r * d = 2 * n + d ∨ 2 * n = (2 * r + 1) * d → r % 2 = 0) :
    roundHalfEven n d = r := by
  have hdiv := Nat.div_add_mod n d
  have hmod := Nat.mod_lt n hd
  generalize n / d = q at *
  generalize n % d = s at *
  subst hdiv
  have hqr : q ≤ r := by
    refine Nat.le_of_lt_succ (Nat.lt_of_mul_lt_mul_left (a := d) ?_)
    rw [Nat.mul_succ]
    have : 2 * r * d = 2 * (d * r) := by rw [Nat.mul_comm d r, Nat.mul_assoc]
    have : (2 * r + 1) * d = 2 * (d * r) + d := by rw [Nat.add_mul, this, Nat.one_mul]
    omega
  have hrq : r ≤ q + 1 := by
    refine Nat.le_of_lt_succ (Nat.lt_of_mul_lt_mul_left (a := d) ?_)
    have : 2 * r * d = 2 * (d * r) := by rw [Nat.mul_comm d r, Nat.mul_assoc]
    rw [Nat.mul_succ, Nat.mul_succ]
    omega
  unfold roundHalfEven
  have hq : (d * q + s) / d = q := by
    rw [Nat.mul_add_div hd, Nat.div_eq_of_lt hmod, Nat.add_zero]
  have hs : (d * q + s) % d = s := by
    rw [Nat.mul_add_mod, Nat.mod_eq_of_lt hmod]
  simp only [hq, hs]
  rcases Nat.eq_or_lt_of_le hqr with rfl | hlt
  · have : (2 * q + 1) * d = 2 * (d * q) + d := by ring
    have : 2 * q * d = 2 * (d * q) := by ring
    split
    · rfl
    · split
      · omega
      · have := htie (.inr (by omega))
        simp [this]
  · obtain rfl : r = q + 1 := by omega
    have : 2 * (q + 1) * d = 2 * (d * q) + 2 * d := by ring
    split
    · omega
    · split
      · rfl
      · have := htie (.inl (by omega))
        have : q % 2 = 1 := by omega
        simp [this]


/-- The same rounding, with the distance measured in rationals. -/
theorem roundHalfEven_eq_of_near {a b r : Nat} (hb : 0 < b)
    (h : |(a : ℚ) / b - r| ≤ 1 / 2) (htie : |(a : ℚ) / b - r| = 1 / 2 → r % 2 = 0) :
    roundHalfEven a b = r := by
  have hbq : (0 : ℚ) < b := by exact_mod_cast hb
  have hx : (a : ℚ) / b * b = a := div_mul_cancel₀ _ hbq.ne'
  obtain ⟨h1, h2⟩ := abs_le.1 h
  apply roundHalfEven_eq hb
  · have : ((2 * r * b : Nat) : ℚ) ≤ ((2 * a + b : Nat) : ℚ) := by
      push_cast
      nlinarith
    exact_mod_cast this
  · have : ((2 * a : Nat) : ℚ) ≤ (((2 * r + 1) * b : Nat) : ℚ) := by
      push_cast
      nlinarith
    exact_mod_cast this
  · intro hedge
    apply htie
    rcases hedge with hedge | hedge
    · have hq : ((2 * r * b : Nat) : ℚ) = ((2 * a + b : Nat) : ℚ) := by rw [hedge]
      push_cast at hq
      rw [abs_eq (by norm_num)]
      right
      field_simp
      linarith
    · have hq : ((2 * a : Nat) : ℚ) = (((2 * r + 1) * b : Nat) : ℚ) := by rw [hedge]
      push_cast at hq
      rw [abs_eq (by norm_num)]
      left
      field_simp
      linarith


/-! ## Rounding at an exponent, and the exponent of a binade -/

theorem two_zpow_of_nonneg {k : Int} (hk : 0 ≤ k) : (2 : ℚ) ^ k = 2 ^ k.toNat := by
  rw [← zpow_natCast, Int.toNat_of_nonneg hk]

theorem two_zpow_of_neg {k : Int} (hk : k < 0) : (2 : ℚ) ^ k = 1 / 2 ^ (-k).toNat := by
  rw [← zpow_natCast, Int.toNat_of_nonneg (by omega), zpow_neg, one_div, inv_inv]

/-- `scaledRound n d e` is the rounding of a quotient of value `n / d · 2 ^ (-e)`. -/
theorem scaledRound_eq_roundHalfEven {n d : Nat} (e : Int) (hd : 0 < d) :
    ∃ a b : Nat, 0 < b ∧ (a : ℚ) / b = n / d * 2 ^ (-e) ∧ scaledRound n d e = roundHalfEven a b := by
  unfold scaledRound
  split
  · rename_i he
    refine ⟨n * 2 ^ (-e).toNat, d, hd, ?_, rfl⟩
    rw [two_zpow_of_nonneg (by omega)]
    push_cast
    ring
  · rename_i he
    refine ⟨n, d * 2 ^ e.toNat, Nat.mul_pos hd (Nat.two_pow_pos _), ?_, rfl⟩
    rw [two_zpow_of_neg (by omega), neg_neg]
    push_cast
    field_simp

/-- `scaledRound n d e` rounds `n / d · 2 ^ (-e)`. -/
theorem scaledRound_eq {n d r : Nat} {e : Int} (hd : 0 < d)
    (h : |(n : ℚ) / d * 2 ^ (-e) - r| ≤ 1 / 2)
    (htie : |(n : ℚ) / d * 2 ^ (-e) - r| = 1 / 2 → r % 2 = 0) : scaledRound n d e = r := by
  obtain ⟨a, b, hb, hval, heq⟩ := scaledRound_eq_roundHalfEven e hd
  rw [heq]
  exact roundHalfEven_eq_of_near hb (hval ▸ h) (hval ▸ htie)

/-- A quotient below `k` rounds to at most `k`. -/
theorem roundHalfEven_le {a b k : Nat} (hb : 0 < b) (h : a < k * b) : roundHalfEven a b ≤ k := by
  have hq : a / b < k := (Nat.div_lt_iff_lt_mul hb).2 h
  unfold roundHalfEven
  dsimp only
  split_ifs <;> omega

theorem scaledRound_le {n d k : Nat} {e : Int} (hd : 0 < d)
    (h : (n : ℚ) / d * 2 ^ (-e) < k) : scaledRound n d e ≤ k := by
  obtain ⟨a, b, hb, hval, heq⟩ := scaledRound_eq_roundHalfEven e hd
  rw [heq]
  apply roundHalfEven_le hb
  rw [← hval, div_lt_iff₀ (by exact_mod_cast hb)] at h
  exact_mod_cast h

/-- The powers of two around a positive natural number. -/
theorem log2_bounds {n : Nat} (hn : 0 < n) :
    (2 : ℚ) ^ (n.log2 : Int) ≤ n ∧ (n : ℚ) < 2 ^ ((n.log2 : Int) + 1) := by
  have h1 : 2 ^ n.log2 ≤ n := Nat.log2_self_le (by omega)
  have h2 : n < 2 ^ (n.log2 + 1) := Nat.lt_log2_self
  constructor
  · rw [zpow_natCast]; exact_mod_cast h1
  · rw [← Nat.cast_one (R := Int), ← Nat.cast_add, zpow_natCast]; exact_mod_cast h2

/-- The test `floorLog2` makes compares `n / d` with the power of two it first guesses. -/
theorem floorLog2_eq_ite {n d : Nat} (hd : 0 < d) :
    floorLog2 n d =
      if (n : ℚ) / d < 2 ^ ((n.log2 : Int) - d.log2) then (n.log2 : Int) - d.log2 - 1
      else (n.log2 : Int) - d.log2 := by
  have hdq : (0 : ℚ) < d := by exact_mod_cast hd
  unfold floorLog2
  generalize (n.log2 : Int) - d.log2 = k
  dsimp only
  split
  · rename_i hk
    have hcond : n < d * 2 ^ k.toNat ↔ (n : ℚ) / d < 2 ^ k := by
      rw [div_lt_iff₀ hdq, two_zpow_of_nonneg hk, mul_comm]
      exact_mod_cast Iff.rfl
    simp only [hcond]
  · rename_i hk
    have hcond : n * 2 ^ (-k).toNat < d ↔ (n : ℚ) / d < 2 ^ k := by
      rw [div_lt_iff₀ hdq, two_zpow_of_neg (by omega), one_div_mul_eq_div,
        lt_div_iff₀ (by positivity)]
      exact_mod_cast Iff.rfl
    simp only [hcond]

/-- `floorLog2 n d` is `⌊log₂ (n / d)⌋`. -/
theorem floorLog2_spec {n d : Nat} (hn : 0 < n) (hd : 0 < d) :
    (2 : ℚ) ^ floorLog2 n d ≤ n / d ∧ (n : ℚ) / d < 2 ^ (floorLog2 n d + 1) := by
  have hdq : (0 : ℚ) < d := by exact_mod_cast hd
  obtain ⟨hn1, hn2⟩ := log2_bounds hn
  obtain ⟨hd1, hd2⟩ := log2_bounds hd
  rw [floorLog2_eq_ite hd]
  generalize (n.log2 : Int) = a at *
  generalize (d.log2 : Int) = b at *
  split
  · rename_i hlt
    refine ⟨?_, by simpa using hlt⟩
    have hsplit : (2 : ℚ) ^ (a - b - 1) * 2 ^ (b + 1) = 2 ^ a := by
      rw [← zpow_add₀ two_ne_zero]; ring_nf
    rw [le_div_iff₀ hdq]
    calc (2 : ℚ) ^ (a - b - 1) * d ≤ 2 ^ (a - b - 1) * 2 ^ (b + 1) := by gcongr
      _ = 2 ^ a := hsplit
      _ ≤ n := hn1
  · rename_i hge
    refine ⟨not_lt.1 hge, ?_⟩
    have hsplit : (2 : ℚ) ^ (a - b + 1) * 2 ^ b = 2 ^ (a + 1) := by
      rw [← zpow_add₀ two_ne_zero]; ring_nf
    rw [div_lt_iff₀ hdq]
    calc (n : ℚ) < 2 ^ (a + 1) := hn2
      _ = 2 ^ (a - b + 1) * 2 ^ b := hsplit.symm
      _ ≤ 2 ^ (a - b + 1) * d := by gcongr

/-- A power of two at most `n / d` is at most `2 ^ floorLog2 n d`. -/
theorem le_floorLog2 {n d : Nat} {k : Int} (hn : 0 < n) (hd : 0 < d) (h : (2 : ℚ) ^ k ≤ n / d) :
    k ≤ floorLog2 n d := by
  have := lt_of_le_of_lt h (floorLog2_spec hn hd).2
  rw [zpow_lt_zpow_iff_right₀ one_lt_two] at this
  omega

/-- A power of two above `n / d` is above `2 ^ floorLog2 n d`. -/
theorem floorLog2_lt {n d : Nat} {k : Int} (hn : 0 < n) (hd : 0 < d) (h : (n : ℚ) / d < 2 ^ k) :
    floorLog2 n d < k := by
  have := lt_of_le_of_lt (floorLog2_spec hn hd).1 h
  rwa [zpow_lt_zpow_iff_right₀ one_lt_two] at this


/-! ## The rationals of a double -/

/-- The steps of `round` on a positive quotient: the exponent of its binade, the mantissa
rounded at that exponent, and the carry into the next binade. -/
theorem round_eq_of_scaled {neg : Bool} {n d r : Nat} {e : Int} (hn : 0 < n) (hd : 0 < d)
    (he : max (floorLog2 n d - 52) minExp = e) (hr : scaledRound n d e = r) :
    round neg n d =
      if r = 2 * fractionCount then
        (if e + 1 > maxExp then infinity neg else toDouble (finiteBits neg fractionCount (e + 1)))
      else (if e > maxExp then infinity neg else toDouble (finiteBits neg r e)) := by
  unfold round
  simp only [Nat.pos_iff_ne_zero.1 hn, Nat.pos_iff_ne_zero.1 hd, or_self, if_false, he, hr]
  split <;> rfl

/-- The rationals that round to the positive double of fields `m` and `e`, to nearest with
ties to even: from half a unit in the last place below it (a quarter unit at the least
mantissa of a binade above the subnormals, where the units below are half as wide) to half
a unit above it, both ends included when `m` is even. Units of `2 ^ (e - 2)`, as
`Shortest.inInterval` counts them. -/
def RoundsTo (m : Nat) (e : Int) (q : ℚ) : Prop :=
  let lo := ((4 * m - Shortest.below m e : Nat) : ℚ) * 2 ^ (e - 2)
  let hi := ((4 * m + 2 : Nat) : ℚ) * 2 ^ (e - 2)
  if m % 2 = 0 then lo ≤ q ∧ q ≤ hi else lo < q ∧ q < hi

theorem below_le (m : Nat) (e : Int) : Shortest.below m e ≤ 2 := by
  unfold Shortest.below; split <;> omega

/-- What `RoundsTo` says of the scaled value `q · 2 ^ (-e)`: within half a unit of `m`,
within a quarter below it at a binade's least mantissa, and an exact half only for an even
`m`. -/
theorem RoundsTo.scaled {m : Nat} {e : Int} {q : ℚ} (hm : 0 < m) (h : RoundsTo m e q) :
    (m : ℚ) - Shortest.below m e / 4 ≤ q * 2 ^ (-e) ∧ q * 2 ^ (-e) ≤ m + 1 / 2 ∧
      ((q * 2 ^ (-e) = m + 1 / 2 ∨ q * 2 ^ (-e) = m - Shortest.below m e / 4) → m % 2 = 0) := by
  have hb := below_le m e
  have hpos : (0 : ℚ) < 2 ^ e := by positivity
  have hlo : ((4 * m - Shortest.below m e : Nat) : ℚ) * 2 ^ (e - 2) =
      ((m : ℚ) - Shortest.below m e / 4) * 2 ^ e := by
    rw [Nat.cast_sub (by omega), zpow_sub₀ two_ne_zero]
    push_cast
    ring
  have hhi : ((4 * m + 2 : Nat) : ℚ) * 2 ^ (e - 2) = ((m : ℚ) + 1 / 2) * 2 ^ e := by
    rw [zpow_sub₀ two_ne_zero]
    push_cast
    ring
  have hscale : ∀ a : ℚ, a * 2 ^ e * 2 ^ (-e) = a := fun a => by
    rw [zpow_neg, mul_assoc, mul_inv_cancel₀ hpos.ne', mul_one]
  unfold RoundsTo at h
  simp only [hlo, hhi] at h
  split at h
  · rename_i heven
    obtain ⟨h1, h2⟩ := h
    refine ⟨?_, ?_, fun _ => heven⟩
    · have := mul_le_mul_of_nonneg_right h1 (by positivity : (0 : ℚ) ≤ 2 ^ (-e))
      rwa [hscale] at this
    · have := mul_le_mul_of_nonneg_right h2 (by positivity : (0 : ℚ) ≤ 2 ^ (-e))
      rwa [hscale] at this
  · obtain ⟨h1, h2⟩ := h
    have h1' := mul_lt_mul_of_pos_right h1 (by positivity : (0 : ℚ) < 2 ^ (-e))
    have h2' := mul_lt_mul_of_pos_right h2 (by positivity : (0 : ℚ) < 2 ^ (-e))
    rw [hscale] at h1' h2'
    refine ⟨h1'.le, h2'.le, ?_⟩
    rintro (h | h) <;> rw [h] at h1' h2'
    · exact absurd h2' (lt_irrefl _)
    · exact absurd h1' (lt_irrefl _)

/-- A positive quotient that rounds to the double of fields `m` and `e` is rounded to that
double. -/
theorem round_eq_of_roundsTo {neg : Bool} {n d m : Nat} {e : Int} (hn : 0 < n) (hd : 0 < d)
    (hc : Canonical m e) (hm : 0 < m) (hmax : e ≤ maxExp) (h : RoundsTo m e ((n : ℚ) / d)) :
    round neg n d = toDouble (finiteBits neg m e) := by
  obtain ⟨hm53, hmin, hnorm⟩ := hc
  obtain ⟨hlo, hhi, htie⟩ := h.scaled hm
  generalize hx : (n : ℚ) / d * 2 ^ (-e) = x at hlo hhi htie
  have hQ : (n : ℚ) / d = x * 2 ^ e := by
    rw [← hx, mul_assoc, ← zpow_add₀ two_ne_zero, neg_add_cancel, zpow_zero, mul_one]
  have hpow : ∀ k : Int, (2 : ℚ) ^ (k + e) = 2 ^ k * 2 ^ e := fun k => zpow_add₀ two_ne_zero k e
  have hb := below_le m e
  have hF : (fractionCount : ℚ) = 2 ^ 52 := by norm_num [fractionCount]
  have hmF : (m : ℚ) + 1 ≤ 2 ^ 53 := by
    have : m + 1 ≤ 2 ^ 53 := by simp only [fractionCount] at hm53; omega
    exact_mod_cast this
  -- the quotient lies below the binade `2 ^ (53 + e)` in every case
  have hup : floorLog2 n d < 53 + e := by
    apply floorLog2_lt hn hd
    rw [hQ, hpow]
    gcongr
    norm_num at hmF ⊢
    linarith
  by_cases hcarry : m = fractionCount ∧ minExp < e ∧ x < 2 ^ 52
  · -- the least mantissa of a binade, approached from below: it rounds at the exponent
    -- below and carries back
    obtain ⟨rfl, hemin, hx52⟩ := hcarry
    have hbelow : Shortest.below fractionCount e = 1 := by simp [Shortest.below, hemin]
    rw [hbelow, hF] at hlo
    push_cast at hlo
    have hlog : floorLog2 n d = 51 + e := by
      have h1 : 51 + e ≤ floorLog2 n d := by
        apply le_floorLog2 hn hd
        rw [hQ, hpow]
        gcongr
        linarith
      have h2 : floorLog2 n d < 52 + e := by
        apply floorLog2_lt hn hd
        rw [hQ, hpow]
        gcongr
        exact hx52
      omega
    have he' : max (floorLog2 n d - 52) minExp = e - 1 := by rw [hlog]; omega
    have htwice : (n : ℚ) / d * 2 ^ (-(e - 1)) = 2 * x := by
      rw [← hx, neg_sub, sub_eq_add_neg, zpow_add₀ two_ne_zero, zpow_one]
      ring
    have hr : scaledRound n d (e - 1) = 2 * fractionCount := by
      apply scaledRound_eq hd
      · rw [htwice, abs_le]
        constructor <;> push_cast [hF] <;> linarith
      · intro _
        simp [fractionCount]
    rw [round_eq_of_scaled hn hd he' hr, if_pos rfl, sub_add_cancel, if_neg (by omega)]
  · have he' : max (floorLog2 n d - 52) minExp = e := by
      rcases hnorm with hnorm | rfl
      · by_cases hemin : e = minExp
        · omega
        have hx52 : 2 ^ 52 ≤ x := by
          refine not_lt.1 fun hlt => ?_
          have hmle : (m : ℚ) < 2 ^ 52 + 1 := by
            have : (Shortest.below m e : ℚ) ≤ 2 := by exact_mod_cast hb
            linarith
          have : m = fractionCount := by
            have : m < 2 ^ 52 + 1 := by exact_mod_cast hmle
            simp only [fractionCount] at hnorm ⊢
            omega
          exact hcarry ⟨this, by omega, hlt⟩
        have : 52 + e ≤ floorLog2 n d := by
          apply le_floorLog2 hn hd
          rw [hQ, hpow]
          gcongr
          exact hx52
        omega
      · omega
    have hr : scaledRound n d e = m := by
      have hb' : (Shortest.below m e : ℚ) ≤ 2 := by exact_mod_cast hb
      apply scaledRound_eq hd
      · rw [hx, abs_le]
        constructor <;> linarith
      · rw [hx]
        intro hhalf
        rcases (abs_eq (by norm_num)).1 hhalf with h1 | h1
        · exact htie (.inl (by linarith))
        · -- a half below needs the full half unit below, so `below` is 2
          have : Shortest.below m e = 2 := by
            have : (2 : ℚ) ≤ Shortest.below m e := by linarith
            have : 2 ≤ Shortest.below m e := by exact_mod_cast this
            omega
          exact htie (.inr (by rw [this]; push_cast; linarith))
    have hm2 : m ≠ 2 * fractionCount := by omega
    rw [round_eq_of_scaled hn hd he' hr, if_neg hm2, if_neg (by omega)]

/-! ## Patterns and fields -/

theorem exp_le_of_ofBits {b : Nat} {neg : Bool} {m : Nat} {e : Int}
    (h : ofBits b = .finite neg m e) : e ≤ maxExp := by
  have hE : b % signPlace / fractionCount < 2048 := by
    simp only [signPlace, fractionCount]; omega
  unfold ofBits at h
  simp only at h
  split at h
  · split at h <;> cases h
  · split at h
    · cases h; simp [minExp, maxExp]
    · cases h
      simp only [maxExp]
      omega

/-- The pattern of a finite double is the one `finiteBits` writes from its fields. -/
theorem finiteBits_of_ofBits {b : Nat} {neg : Bool} {m : Nat} {e : Int} (hb : b < 2 ^ 64)
    (h : ofBits b = .finite neg m e) : finiteBits neg m e = b := by
  unfold ofBits at h
  simp only at h
  unfold finiteBits
  split at h
  · split at h <;> cases h
  · split at h
    · rename_i hE
      cases h
      dsimp only
      split_ifs <;> simp only [decide_eq_true_eq, minExp] at * <;>
        unfold signPlace fractionCount at * <;> omega
    · rename_i hE
      cases h
      dsimp only
      split_ifs <;> simp only [decide_eq_true_eq] at * <;>
        unfold signPlace fractionCount at * <;> omega

theorem ofDouble_toDouble (b : Nat) : ofDouble (toDouble b) = ofBits (b % 2 ^ 64) := by
  simp [ofDouble, toDouble]

theorem toDouble_bits (x : Double) : toDouble x.bits.toNat = x := by
  simp [toDouble]

theorem toNat_bits_toDouble (b : Nat) : (toDouble b).bits.toNat = b % 2 ^ 64 := by
  simp [toDouble]

/-- A finite double is written back from its fields. -/
theorem toDouble_finiteBits {x : Double} {neg : Bool} {m : Nat} {e : Int}
    (h : ofDouble x = .finite neg m e) : toDouble (finiteBits neg m e) = x := by
  rw [finiteBits_of_ofBits x.bits.toNat_lt h, toDouble_bits]

/-- The fields of a pattern given by its sign, exponent field and fraction field. -/
theorem ofBits_fields {b : Nat} (neg : Bool) (E f : Nat) (hE : E < 2047) (hf : f < fractionCount)
    (hb : b = (if neg then signPlace else 0) + E * fractionCount + f) :
    ofBits b = if E = 0 then .finite neg f minExp else .finite neg (f + fractionCount) (E - 1075) := by
  have hsign : decide (signPlace ≤ b % 2 ^ 64) = neg := by
    unfold signPlace fractionCount at *
    cases neg <;> simp only [if_true, if_false, Bool.false_eq_true] at hb <;> simp <;> omega
  have hexp : b % signPlace / fractionCount = E := by
    unfold signPlace fractionCount at *
    cases neg <;> simp only [if_true, if_false, Bool.false_eq_true] at hb <;> omega
  have hfrac : b % fractionCount = f := by
    unfold signPlace fractionCount at *
    cases neg <;> simp only [if_true, if_false, Bool.false_eq_true] at hb <;> omega
  unfold ofBits
  dsimp only
  rw [hsign, hexp, hfrac, if_neg (by omega)]

/-- The fields `finiteBits` writes are read back, for the fields of a finite double. -/
theorem ofBits_finiteBits {neg : Bool} {m : Nat} {e : Int} (hc : Canonical m e)
    (hmax : e ≤ maxExp) : ofBits (finiteBits neg m e) = .finite neg m e := by
  obtain ⟨hm, hmin, hnorm⟩ := hc
  have hF : fractionCount = 2 ^ 52 := rfl
  unfold minExp maxExp at *
  by_cases hsub : m < fractionCount
  · have he : e = -1074 := by omega
    subst he
    rw [ofBits_fields neg 0 m (by omega) hsub (by simp [finiteBits, hsub])]
    rfl
  · rw [ofBits_fields neg (e + 1075).toNat (m - fractionCount) (by omega) (by omega)
      (by simp [finiteBits, hsub]), if_neg (by omega)]
    have hmant : m - fractionCount + fractionCount = m := by omega
    have hexp : ((e + 1075).toNat : Int) - 1075 = e := by omega
    rw [hmant, hexp]

/-! ## Overflow, underflow, and no NaN -/

/-- A quotient of at least `2 ^ 1024` rounds to infinity. -/
theorem round_of_huge {neg : Bool} {n d : Nat} (hn : 0 < n) (hd : 0 < d)
    (h : (2 : ℚ) ^ (1024 : Int) ≤ n / d) : round neg n d = infinity neg := by
  have hlog : 1024 ≤ floorLog2 n d := le_floorLog2 hn hd h
  have he : maxExp < max (floorLog2 n d - 52) minExp := by
    simp only [maxExp, minExp]; omega
  have he1 : maxExp < max (floorLog2 n d - 52) minExp + 1 := by omega
  rw [round_eq_of_scaled hn hd rfl rfl]
  simp only [gt_iff_lt, he, he1, if_true, ite_self]

/-- A quotient of at most `2 ^ (-1076)`, a quarter of the least subnormal, rounds to zero. -/
theorem round_of_tiny {neg : Bool} {n d : Nat} (hn : 0 < n) (hd : 0 < d)
    (h : (n : ℚ) / d ≤ 2 ^ (-1076 : Int)) : round neg n d = zero neg := by
  have hlog : floorLog2 n d < -1075 :=
    floorLog2_lt hn hd (lt_of_le_of_lt h (zpow_lt_zpow_right₀ one_lt_two (by norm_num)))
  have he : max (floorLog2 n d - 52) minExp = minExp := by simp only [minExp]; omega
  have hquarter : (n : ℚ) / d * 2 ^ (-minExp) ≤ 1 / 4 := by
    calc (n : ℚ) / d * 2 ^ (-minExp) ≤ 2 ^ (-1076 : Int) * 2 ^ (-minExp) := by gcongr
      _ = 1 / 4 := by rw [← zpow_add₀ two_ne_zero]; norm_num [minExp]
  have hr : scaledRound n d minExp = 0 := by
    apply scaledRound_eq hd _ (fun _ => rfl)
    rw [Nat.cast_zero, sub_zero, abs_of_nonneg (by positivity)]
    linarith
  rw [round_eq_of_scaled hn hd he hr, if_neg (by simp [fractionCount]),
    if_neg (by simp [minExp, maxExp])]
  cases neg <;> rfl

theorem finiteBits_lt {neg : Bool} {m : Nat} {e : Int} (hm : m < 2 * fractionCount)
    (he : e ≤ maxExp) : finiteBits neg m e < 2 ^ 64 := by
  unfold finiteBits signPlace fractionCount maxExp at *
  dsimp only
  split_ifs <;> omega

/-- The fields of a mantissa below `2 ^ 53` at an exponent up to the largest are those of a
finite double, never of a NaN. -/
theorem isNaN_finiteBits {neg : Bool} {m : Nat} {e : Int} (hm : m < 2 * fractionCount)
    (he : e ≤ maxExp) : Number.isNaN (toDouble (finiteBits neg m e)) = false := by
  unfold Number.isNaN
  rw [ofDouble_toDouble, Nat.mod_eq_of_lt (finiteBits_lt hm he)]
  by_cases hsub : m < fractionCount
  · rw [ofBits_fields neg 0 m (by omega) hsub (by simp [finiteBits, hsub])]
    rfl
  · have hE : (e + 1075).toNat < 2047 := by simp only [maxExp] at he; omega
    rw [ofBits_fields neg (e + 1075).toNat (m - fractionCount) hE (by omega)
      (by simp [finiteBits, hsub])]
    split_ifs <;> rfl

theorem isNaN_zero (neg : Bool) : Number.isNaN (zero neg) = false := by
  cases neg <;> rfl

theorem isNaN_infinity (neg : Bool) : Number.isNaN (infinity neg) = false := by
  cases neg <;> rfl

/-- Rounding never gives NaN: its result is a zero, an infinity, or a finite double. -/
theorem isNaN_round (neg : Bool) (n d : Nat) : Number.isNaN (round neg n d) = false := by
  rcases Nat.eq_zero_or_pos n with rfl | hn
  · simp [round, isNaN_zero]
  rcases Nat.eq_zero_or_pos d with rfl | hd
  · simp [round, isNaN_zero]
  -- the quotient scaled to its exponent is below `2 ^ 53`, so the mantissa is at most that
  have hscaled : (n : ℚ) / d * 2 ^ (-max (floorLog2 n d - 52) minExp) < (2 * fractionCount : Nat) := by
    have hlt := (floorLog2_spec hn hd).2
    calc (n : ℚ) / d * 2 ^ (-max (floorLog2 n d - 52) minExp)
        < 2 ^ (floorLog2 n d + 1) * 2 ^ (-max (floorLog2 n d - 52) minExp) := by gcongr
      _ = 2 ^ (floorLog2 n d + 1 - max (floorLog2 n d - 52) minExp) := by
        rw [← zpow_add₀ two_ne_zero]; ring_nf
      _ ≤ 2 ^ (53 : Int) := zpow_le_zpow_right₀ one_le_two (by omega)
      _ = (2 * fractionCount : Nat) := by norm_num [fractionCount]
  have hle := scaledRound_le hd hscaled
  rw [round_eq_of_scaled hn hd rfl rfl]
  split_ifs with hcarry hbig hbig'
  · exact isNaN_infinity neg
  · exact isNaN_finiteBits (by simp [fractionCount]) (by omega)
  · exact isNaN_infinity neg
  · exact isNaN_finiteBits (by omega) (by omega)

end Binary

end ScriptLib
