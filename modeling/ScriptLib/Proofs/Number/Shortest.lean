import ScriptLib.Proofs.Number.Rounding

/-!
# The shortest decimal reads back as its double

`Decimal.shortest m e` searches the grids `10 ^ p` for a point in the interval of reals that
read back as the positive double `m · 2 ^ e`. Its comparisons are made in `Nat` after
scaling; read as comparisons of rationals (`Shortest.compareGrid_eq`), the test
`inInterval` is exactly `RoundsTo` at the grid point (`Shortest.inInterval_iff`). So
whatever grid the search stops at, and the exact value when it finds none, the answer
reads back as the double (`Decimal.shortest_roundsTo`); moving trailing zeros into the
exponent keeps the value.
-/

namespace ScriptLib

namespace Shortest

open Binary

/-! ## Grid comparisons are comparisons of rationals -/

/-- `compare` on naturals is `compare` on their casts. -/
theorem compare_natCast (a b : Nat) : compare (a : ℚ) b = compare a b :=
  (compare_iff _ _).2 (Nat.strictMono_cast.compares.2 ((compare_iff _ _).1 rfl))

theorem compare_mul_right {a b k : ℚ} (hk : 0 < k) : compare (a * k) (b * k) = compare a b :=
  (compare_iff _ _).2 ((strictMono_mul_right_of_pos hk).compares.2 ((compare_iff _ _).1 rfl))

/-- An integer power as a quotient of natural powers. -/
theorem zpow_eq_div {a : ℚ} (ha : a ≠ 0) (k : Int) : a ^ k = a ^ k.toNat / a ^ (-k).toNat := by
  rw [← zpow_natCast, ← zpow_natCast, ← zpow_sub₀ ha]
  congr 1
  omega

/-- `compareGrid c p x s` compares `c · 10 ^ p` with `x · 2 ^ s`. -/
theorem compareGrid_eq (c : Nat) (p : Int) (x : Nat) (s : Int) :
    compareGrid c p x s = compare ((c : ℚ) * 10 ^ p) ((x : ℚ) * 2 ^ s) := by
  -- both sides of the comparison in `Nat` are the rationals times `10 ^ p⁻ · 2 ^ s⁻`
  have hK : (0 : ℚ) < 10 ^ (-p).toNat * 2 ^ (-s).toNat := by positivity
  have hl : ((c * Decimal.pow10 p.toNat * 2 ^ (-s).toNat : Nat) : ℚ) =
      (c : ℚ) * 10 ^ p * (10 ^ (-p).toNat * 2 ^ (-s).toNat) := by
    rw [zpow_eq_div (by norm_num) p, Decimal.pow10]
    push_cast
    field_simp
  have hr : ((x * 2 ^ s.toNat * Decimal.pow10 (-p).toNat : Nat) : ℚ) =
      (x : ℚ) * 2 ^ s * (10 ^ (-p).toNat * 2 ^ (-s).toNat) := by
    rw [zpow_eq_div (by norm_num) s, Decimal.pow10]
    push_cast
    field_simp
  rw [compareGrid, ← compare_natCast, hl, hr, compare_mul_right hK]

/-- `inInterval` tests whether the grid point reads back as the double. -/
theorem inInterval_iff (m : Nat) (e : Int) (c : Nat) (p : Int) :
    inInterval m e c p = true ↔ RoundsTo m e ((c : ℚ) * 10 ^ p) := by
  unfold inInterval RoundsTo
  simp only [compareGrid_eq]
  split
  · simp only [Bool.and_eq_true, bne_iff_ne, ne_eq, compare_ge_iff_ge, compare_le_iff_le]
  · simp only [Bool.and_eq_true, beq_iff_eq, compare_gt_iff_gt, compare_lt_iff_lt]

/-! ## What the search finds -/

theorem onGrid_inInterval {m : Nat} {e p : Int} {d : Decimal} (h : onGrid m e p = some d) :
    d.exp = p ∧ inInterval m e d.digits p = true := by
  unfold onGrid at h
  dsimp only at h
  split_ifs at h with hboth hlo hhi
  · split at h <;> cases h
    exacts [⟨rfl, hboth.1⟩, ⟨rfl, hboth.2⟩]
  · cases h; exact ⟨rfl, hlo⟩
  · cases h; exact ⟨rfl, hhi⟩

/-- Whatever grid the search stops at, its answer reads back as the double. -/
theorem search_inInterval {m : Nat} {e : Int} :
    ∀ {fuel : Nat} {p : Int} {d : Decimal}, search m e fuel p = some d →
      inInterval m e d.digits d.exp = true
  | 0, _, _, h => by simp [search] at h
  | fuel + 1, p, d, h => by
    unfold search at h
    split at h
    · rename_i d' hd
      cases h
      obtain ⟨hp, hin⟩ := onGrid_inInterval hd
      rwa [hp]
    · exact search_inInterval h

end Shortest

/-! ## The value of a decimal -/

namespace Decimal

/-- The rational `digits · 10 ^ exp`. -/
def toRat (d : Decimal) : ℚ := d.digits * 10 ^ d.exp

theorem normalize_go_toRat : ∀ (fuel : Nat) (d : Decimal), (normalize.go fuel d).toRat = d.toRat
  | 0, _ => rfl
  | fuel + 1, d => by
    unfold normalize.go
    split
    · rename_i h
      rw [normalize_go_toRat fuel]
      have h10 : (d.digits : ℚ) = ((d.digits / 10 : Nat) : ℚ) * 10 := by
        exact_mod_cast (Nat.div_mul_cancel (Nat.dvd_of_mod_eq_zero h.2)).symm
      simp only [toRat]
      rw [h10, zpow_add_one₀ (by norm_num)]
      ring
    · rfl

@[simp]
theorem normalize_toRat (d : Decimal) : d.normalize.toRat = d.toRat :=
  normalize_go_toRat _ d

end Decimal

namespace Binary

theorem one_le_below (m : Nat) (e : Int) : 1 ≤ Shortest.below m e := by
  unfold Shortest.below; split <;> omega

/-- A positive double reads back as itself. -/
theorem roundsTo_self {m : Nat} (hm : 0 < m) (e : Int) : RoundsTo m e (m * 2 ^ e) := by
  have hb1 := one_le_below m e
  have hb2 := below_le m e
  have hpow : (2 : ℚ) ^ e = 4 * 2 ^ (e - 2) := by
    rw [show e = (e - 2) + 2 by ring, zpow_add₀ (by norm_num)]
    norm_num
    ring
  have hu : (0 : ℚ) < 2 ^ (e - 2) := by positivity
  have hlo : ((4 * m - Shortest.below m e : Nat) : ℚ) * 2 ^ (e - 2) < m * 2 ^ e := by
    have hb : (1 : ℚ) ≤ Shortest.below m e := by exact_mod_cast hb1
    rw [hpow, Nat.cast_sub (by omega)]
    push_cast
    nlinarith
  have hhi : (m : ℚ) * 2 ^ e < ((4 * m + 2 : Nat) : ℚ) * 2 ^ (e - 2) := by
    rw [hpow]
    push_cast
    nlinarith
  unfold RoundsTo
  split
  · exact ⟨hlo.le, hhi.le⟩
  · exact ⟨hlo, hhi⟩

/-- Only positive rationals read back as a positive double. -/
theorem RoundsTo.pos {m : Nat} {e : Int} {q : ℚ} (hm : 0 < m) (h : RoundsTo m e q) : 0 < q := by
  have hb2 := below_le m e
  have hlo : (0 : ℚ) < ((4 * m - Shortest.below m e : Nat) : ℚ) * 2 ^ (e - 2) := by
    have : 0 < 4 * m - Shortest.below m e := by omega
    positivity
  unfold RoundsTo at h
  split at h
  · exact lt_of_lt_of_le hlo h.1
  · exact lt_trans hlo h.1

end Binary

/-- The value of a double, written exactly as a decimal: `m · 2 ^ e` is
`m · 2 ^ e⁺ · 5 ^ e⁻ · 10 ^ (min e 0)`. -/
theorem Decimal.toRat_exact (m : Nat) (e : Int) :
    (⟨m * 2 ^ e.toNat * 5 ^ (-e).toNat, min e 0⟩ : Decimal).toRat = m * 2 ^ e := by
  simp only [Decimal.toRat]
  rcases le_or_gt 0 e with he | he
  · rw [min_eq_right he, show (-e).toNat = 0 by omega, Binary.two_zpow_of_nonneg he]
    simp
  · rw [min_eq_left he.le, show e.toNat = 0 by omega]
    have h10 : (10 : ℚ) ^ e = 2 ^ e * 5 ^ e := by
      rw [← mul_zpow]; norm_num
    have h5 : (5 : ℚ) ^ (-e).toNat * 5 ^ e = 1 := by
      rw [← zpow_natCast, Int.toNat_of_nonneg (by omega), ← zpow_add₀ (by norm_num)]
      simp
    push_cast
    rw [h10]
    calc (m : ℚ) * 2 ^ 0 * 5 ^ (-e).toNat * (2 ^ e * 5 ^ e)
        = m * 2 ^ e * (5 ^ (-e).toNat * 5 ^ e) := by ring
      _ = m * 2 ^ e := by rw [h5, mul_one]

/-- The shortest decimal of a positive double reads back as that double. -/
theorem Decimal.shortest_roundsTo {m : Nat} (hm : 0 < m) (e : Int) :
    Binary.RoundsTo m e (Decimal.shortest m e).toRat := by
  unfold Decimal.shortest
  dsimp only
  split
  · rename_i d hd
    rw [Decimal.normalize_toRat]
    exact (Shortest.inInterval_iff m e d.digits d.exp).1 (Shortest.search_inInterval hd)
  · rw [Decimal.normalize_toRat, Decimal.toRat_exact]
    exact Binary.roundsTo_self hm e


end ScriptLib
