import ScriptLib.Proofs.Number.Reading
import ScriptLib.Proofs.Number.Shortest
import ScriptLib.Proofs.Heap.Symmetry
import ScriptLib.Proofs.World.Clean

/-!
# The text of a number reads back

The script writes a finite non-zero number as the shortest decimal of its magnitude, in
positional notation, after a minus when negative. That text has no blank, no exponent, no
radix prefix and one sign at most, so `Number.ofText` reads it as the decimal rounded to
the nearest double; the shortest decimal lies in the interval of the number, so the
rounding gives the number back (`Number.ofText_shortest`). The texts `NaN`, `Infinity`,
`-Infinity` and `0` read as a NaN, the two infinities and positive zero.

Reading back tells apart every two texts of numbers that are not equal as doubles, so two
numbers are written alike exactly when they are equal or both NaN
(`Number.format_eq_iff`). Deep equality of two scalars, whichever of its rules applies,
is then agreement of their texts (`scalar_equality_is_text_equality`).
-/

namespace ScriptLib

namespace Binary

/-! ## Signs of patterns -/

theorem finiteBits_true (m : Nat) (e : Int) :
    finiteBits true m e = signPlace + finiteBits false m e := by
  simp only [finiteBits, if_true, Bool.false_eq_true, if_false]
  split <;> omega

theorem finiteBits_false_lt {m : Nat} {e : Int} (hm : m < 2 * fractionCount) (he : e ≤ maxExp) :
    finiteBits false m e < signPlace := by
  simp only [finiteBits, Bool.false_eq_true, if_false, Nat.zero_add]
  unfold signPlace fractionCount maxExp at *
  split_ifs <;> omega

/-- Negation sets the sign bit of a positive finite double. -/
theorem negate_finiteBits {m : Nat} {e : Int} (hm : m < 2 * fractionCount) (he : e ≤ maxExp) :
    -toDouble (finiteBits false m e) = toDouble (finiteBits true m e) := by
  have hlt := finiteBits_false_lt hm he
  show negate _ = _
  unfold negate
  have hsum : (finiteBits false m e % 2 ^ 64 + signPlace) % 2 ^ 64 =
      signPlace + finiteBits false m e := by
    unfold signPlace at *
    omega
  rw [toNat_bits_toDouble, finiteBits_true, hsum]

/-- A double that decodes to an infinity is that infinity. -/
theorem eq_infinity_of_ofDouble {x : Double} {neg : Bool} (h : ofDouble x = .inf neg) :
    x = infinity neg := by
  have hb := x.bits.toNat_lt
  unfold ofDouble ofBits at h
  simp only at h
  split_ifs at h with hE hf
  cases h
  calc x = toDouble x.bits.toNat := (toDouble_bits x).symm
    _ = infinity _ := by
      unfold infinity
      congr 1
      unfold signPlace fractionCount at *
      split <;> simp_all <;> omega

end Binary

namespace Number

open Binary

theorem ofText_zero_text : ofText "0" = zero false := by rfl

theorem ofText_nan_text : ofText "NaN" = nan := by rfl

theorem ofText_infinity_text (neg : Bool) :
    ofText ((if neg then "-" else "") ++ "Infinity") = Binary.infinity neg := by
  cases neg <;> rfl

/-- The shortest decimal of a positive double, written with a minus or without, reads
back as the double with that sign. -/
theorem ofText_shortest (neg : Bool) {m : Nat} {e : Int} (hc : Canonical m e) (hm : 0 < m)
    (hmax : e ≤ maxExp) :
    ofText ((if neg then "-" else "") ++ (Decimal.shortest m e).positional) =
      toDouble (finiteBits neg m e) := by
  obtain ⟨mant, exp, hr, hval⟩ := readDecimal_positional (Decimal.shortest m e)
  have hq := Decimal.shortest_roundsTo hm e
  rw [Decimal.toRat, ← hval] at hq
  have hmant : 0 < mant := by
    have hpos := hq.pos hm
    rcases Nat.eq_zero_or_pos mant with h0 | h0
    · simp [h0] at hpos
    · exact h0
  -- the text reads as the decimal, and the decimal rounds to the double
  have hround : ofDecimal false mant exp = toDouble (finiteBits false m e) := by
    rw [ofDecimal_eq_round]
    refine round_eq_of_roundsTo (Nat.mul_pos hmant (Nat.pow_pos (by decide)))
      (Nat.pow_pos (by decide)) hc hm hmax ?_
    rwa [decimal_quotient]
  rw [ofText_plain neg (plainChar_of_mem_positional _) hr, hround]
  cases neg
  · rfl
  · exact negate_finiteBits hc.1 hmax

theorem ofText_format_of_finite {x : Double} {neg : Bool} {m : Nat} {e : Int}
    (h : ofDouble x = .finite neg m e) (hm : 0 < m) : ofText (format x) = x := by
  have htext : format x = (if neg then "-" else "") ++ (Decimal.shortest m e).positional := by
    simp only [format, NumberStyle.render, h, if_neg (Nat.pos_iff_ne_zero.1 hm)]
  rw [htext, ofText_shortest neg (canonical_of_ofBits h) hm (exp_le_of_ofBits h),
    toDouble_finiteBits h]

theorem ofText_format_of_zero {x : Double} {neg : Bool} {e : Int}
    (h : ofDouble x = .finite neg 0 e) : ofText (format x) = zero false := by
  simp only [format, NumberStyle.render, h, NumberStyle.script, if_true]
  simp [ofText_zero_text]

theorem ofText_format_of_inf {x : Double} {neg : Bool} (h : ofDouble x = .inf neg) :
    ofText (format x) = x := by
  simp only [format, NumberStyle.render, h, NumberStyle.script]
  rw [ofText_infinity_text, eq_infinity_of_ofDouble h]

/-- A number equals zero exactly when its mantissa is zero, whatever its sign. -/
theorem eq_zero_iff {x : Double} :
    Number.eq x (zero false) = true ↔ ∃ neg e, ofDouble x = .finite neg 0 e := by
  have hz : ofDouble (zero false) = .finite false 0 minExp := rfl
  unfold Number.eq compare?
  rw [hz]
  cases h : ofDouble x with
  | nan => simp
  | inf a => cases a <;> simp
  | finite a m e =>
    simp only [scaled, Bool.false_eq_true, if_false, Nat.cast_zero, neg_zero, zero_mul,
      beq_iff_eq, Option.some.injEq, Std.compare_eq_eq_iff_eq, Binary.finite.injEq]
    constructor
    · intro hm
      have : m = 0 := by
        cases a <;> simp at hm <;> omega
      exact ⟨a, e, rfl, this, rfl⟩
    · rintro ⟨_, _, rfl, rfl, rfl⟩
      cases a <;> simp

/-- Reading back the text of a number gives the number, positive zero for either zero,
and a NaN for a NaN. -/
theorem ofText_format_of_not_isNaN {x : Double} (hx : isNaN x = false) :
    ofText (format x) = if Number.eq x (zero false) then zero false else x := by
  cases h : ofDouble x with
  | nan => simp [isNaN, h] at hx
  | inf neg =>
    rw [if_neg (by simp [eq_zero_iff, h])]
    exact ofText_format_of_inf h
  | finite neg m e =>
    rcases Nat.eq_zero_or_pos m with rfl | hm
    · rw [if_pos (eq_zero_iff.2 ⟨neg, e, h⟩)]
      exact ofText_format_of_zero h
    · rw [if_neg (by simp [eq_zero_iff, h]; omega)]
      exact ofText_format_of_finite h hm

theorem isNaN_ofText_format (x : Double) : isNaN (ofText (format x)) = isNaN x := by
  cases hx : isNaN x
  · rw [ofText_format_of_not_isNaN hx]
    split
    · exact isNaN_zero false
    · exact hx
  · rw [format_of_isNaN hx, ofText_nan_text]
    rfl

/-- Two numbers are written alike exactly when they are equal or both NaN: the text of
a number reads back as the number, up to the sign of zero. -/
theorem format_eq_iff {x y : Double} :
    format x = format y ↔ Number.eq x y = true ∨ (isNaN x = true ∧ isNaN y = true) := by
  constructor
  · intro h
    have hnan : isNaN x = isNaN y := by
      rw [← isNaN_ofText_format, h, isNaN_ofText_format]
    cases hx : isNaN x
    · have hy : isNaN y = false := hnan ▸ hx
      have hread := congrArg ofText h
      rw [ofText_format_of_not_isNaN hx, ofText_format_of_not_isNaN hy] at hread
      left
      split_ifs at hread with h0x h0y h0y
      · obtain ⟨a, e, hxa⟩ := eq_zero_iff.1 h0x
        obtain ⟨b, f, hyb⟩ := eq_zero_iff.1 h0y
        simp [Number.eq, compare?, hxa, hyb, scaled]
      · exact absurd (by rw [← hread]; rfl) h0y
      · exact absurd (by rw [hread]; rfl) h0x
      · rw [hread]
        exact (eq_self_or_isNaN y).resolve_right (by simp [hy])
    · exact .inr ⟨rfl, hnan ▸ hx⟩
  · rintro (h | ⟨hx, hy⟩)
    · exact format_eq_of_eq h
    · rw [format_of_isNaN hx, format_of_isNaN hy]

end Number

namespace Value

/-- Nil, a number, a text or a boolean: a value that is no container. -/
def isScalar : Value → Bool
  | .list _ | .map _ => false
  | _ => true

end Value

namespace Heap

/-- Deep equality of two scalars is agreement of their texts. -/
theorem equal_iff_display_of_isScalar (h : Heap) {a b : Value} (ha : a.isScalar = true)
    (hb : b.isScalar = true) : h.equal a b = true ↔ h.display a = h.display b := by
  unfold equal
  cases a <;> cases b <;> simp only [Value.isScalar, Bool.false_eq_true] at ha hb
  case nil.nil => simp [equalIn.eq_3]
  case num.num x y =>
    rw [equalIn.eq_4, display_num, display_num, Number.format_eq_iff]
    simp
  case str.str s t =>
    rw [equalIn.eq_5, display_str, display_str]
    simp
  all_goals
    rw [equalIn.eq_6] <;> simp

end Heap

/-! ## Reading back through the script -/

theorem Intrinsic.run_str_num (x : Double) (w : World) :
    (Intrinsic.str [.num x]).run.run w = (.ok (.str (Number.format x)), w) := by
  rw [← Heap.display_num w.heap x]
  rfl

theorem Intrinsic.run_val_str (s : String) (w : World) :
    (Intrinsic.val [.str s]).run.run w =
      (.ok (if Number.isNaN (Number.ofText s) then .str s else .num (Number.ofText s)), w) :=
  rfl

/-- The text of every number reads back: as a NaN exactly for a NaN, as positive zero for
either zero, as the number itself otherwise. So `val (str x)` gives a number equal to `x`
for every number that is not NaN, and leaves the world as it is. -/
theorem number_text_reads_back (x : Double) :
    Number.isNaN (Number.ofText (Number.format x)) = Number.isNaN x ∧
    (Number.isNaN x = false →
      Number.ofText (Number.format x) =
          (if Number.eq x (Binary.zero false) then Binary.zero false else x) ∧
        ∀ w : World, ∃ y, (Intrinsic.str [.num x] >>= fun s => Intrinsic.val [s]).run.run w =
          (.ok (.num y), w) ∧ Number.eq y x = true) := by
  refine ⟨Number.isNaN_ofText_format x, fun hx => ⟨Number.ofText_format_of_not_isNaN hx, fun w => ?_⟩⟩
  have hnan : Number.isNaN (Number.ofText (Number.format x)) = false := by
    rw [Number.isNaN_ofText_format, hx]
  refine ⟨Number.ofText (Number.format x), ?_, ?_⟩
  · rw [Act.run_bind_ok (Intrinsic.run_str_num x w), Intrinsic.run_val_str, hnan]
    rfl
  · rw [Number.ofText_format_of_not_isNaN hx]
    split
    · rename_i h0
      rwa [Number.eq_comm]
    · exact (Number.eq_self_or_isNaN x).resolve_right (by simp [hx])

theorem negative_zero_reads_back_as_zero :
    Number.isNaN (Binary.zero true) = false ∧
      Number.ofText (Number.format (Binary.zero true)) = Binary.zero false :=
  ⟨rfl, by rw [((number_text_reads_back (Binary.zero true)).2 rfl).1]; rfl⟩

/-! ## Equality of scalars -/

/-- Deep equality of scalars is agreement of their texts. So on nil, booleans, numbers and
texts it is an equivalence, and two numbers compare as a number and the other's text do. -/
theorem scalar_equality_is_text_equality (h : Heap) :
    (∀ a b : Value, a.isScalar = true → b.isScalar = true →
      (h.equal a b = true ↔ h.display a = h.display b)) ∧
    Equivalence (fun a b : {v : Value // v.isScalar = true} => h.equal a.1 b.1 = true) ∧
    ∀ x y : Double, h.equal (.num x) (.num y) = h.equal (.num x) (.str (Number.format y)) := by
  have hiff : ∀ a b : Value, a.isScalar = true → b.isScalar = true →
      (h.equal a b = true ↔ h.display a = h.display b) :=
    fun _ _ ha hb => h.equal_iff_display_of_isScalar ha hb
  refine ⟨hiff, ⟨fun a => ?_, fun hab => ?_, fun hab hbc => ?_⟩, fun x y => ?_⟩
  · exact (hiff _ _ a.2 a.2).2 rfl
  · rename_i a b
    exact (hiff _ _ b.2 a.2).2 ((hiff _ _ a.2 b.2).1 hab).symm
  · rename_i a b c
    exact (hiff _ _ a.2 c.2).2 (((hiff _ _ a.2 b.2).1 hab).trans ((hiff _ _ b.2 c.2).1 hbc))
  · rw [Bool.eq_iff_iff, hiff _ _ rfl rfl, hiff _ _ rfl rfl, Heap.display_str, Heap.display_num,
      Heap.display_num]

theorem negative_zero_and_zero_compare_as_texts :
    (Value.num (Binary.zero true)).isScalar = true ∧ (Value.num (Binary.zero false)).isScalar = true ∧
      (({} : Heap).equal (.num (Binary.zero true)) (.num (Binary.zero false)) = true ↔
        ({} : Heap).display (.num (Binary.zero true)) =
          ({} : Heap).display (.num (Binary.zero false))) :=
  ⟨rfl, rfl, (scalar_equality_is_text_equality {}).1 _ _ rfl rfl⟩

end ScriptLib
