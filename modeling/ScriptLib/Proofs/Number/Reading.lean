import ScriptLib.Proofs.Number.Rounding
import Mathlib.Tactic.IntervalCases

/-!
# Reading decimal texts

`Number.ofText` reads a decimal text through `readDecimal`, which gives the digits as a
natural number and the place of the point as a power of ten, and `ofDecimal`, which
rounds that value to the nearest double (`ofDecimal_eq_round`: its shortcuts for exponents
far outside the range of doubles agree with rounding).

A text of digits and at most one point, the text `Decimal.positional` writes, reads as its
own value (`readDecimal_positional`), with a minus in front as its negation
(`ofText_plain`): such a text has no blank to trim, no sign and no radix prefix, and every
character passes the whitelist of the floating reader.
-/

namespace ScriptLib

namespace Number

/-! ## Digits -/

theorem foldl_digits (a : Nat) (ds : List Char) :
    ds.foldl (fun n c => 10 * n + (c.toNat - '0'.toNat)) a = a * 10 ^ ds.length + digitsValue ds := by
  induction ds generalizing a with
  | nil => simp [digitsValue]
  | cons c ds ih =>
    simp only [List.foldl_cons, digitsValue] at *
    rw [ih, ih (10 * 0 + (c.toNat - '0'.toNat)), List.length_cons, pow_succ]
    ring

theorem digitsValue_append (l₁ l₂ : List Char) :
    digitsValue (l₁ ++ l₂) = digitsValue l₁ * 10 ^ l₂.length + digitsValue l₂ := by
  rw [digitsValue, List.foldl_append, foldl_digits]
  rfl

theorem digitsValue_replicate_zero (k : Nat) : digitsValue (List.replicate k '0') = 0 := by
  induction k with
  | zero => rfl
  | succ k ih =>
    rw [List.replicate_succ', digitsValue_append, ih]
    rfl

/-- The digits of a natural number read back as that number. -/
theorem digitsValue_toDigits (n : Nat) : digitsValue (Nat.toDigits 10 n) = n := by
  induction n using Nat.strong_induction_on with
  | _ n ih =>
    rw [Nat.toDigits_eq_if (by decide)]
    split
    · rename_i hn
      interval_cases n <;> rfl
    · rename_i hn
      rw [digitsValue_append, ih (n / 10) (by omega)]
      have hd : digitsValue [Nat.digitChar (n % 10)] = n % 10 := by
        have : n % 10 < 10 := Nat.mod_lt _ (by decide)
        generalize n % 10 = r at *
        interval_cases r <;> rfl
      rw [hd, List.length_singleton]
      omega

theorem digitCount_pos (n : Nat) : 0 < Decimal.digitCount n := Nat.length_toDigits_pos

theorem lt_pow_digitCount (n : Nat) : n < 10 ^ Decimal.digitCount n :=
  (Nat.length_toDigits_le_iff (by decide) (digitCount_pos n)).1 le_rfl

theorem pow_digitCount_le {n : Nat} (hn : 0 < n) : 10 ^ (Decimal.digitCount n - 1) ≤ n := by
  have hpos := digitCount_pos n
  by_cases h1 : Decimal.digitCount n = 1
  · rw [h1]; simpa using Nat.one_le_iff_ne_zero.2 (by omega)
  · have hlt : ¬ (Nat.toDigits 10 n).length ≤ Decimal.digitCount n - 1 := by
      unfold Decimal.digitCount at *; omega
    rw [Nat.length_toDigits_le_iff (by decide) (by omega)] at hlt
    omega

/-! ## Decimals to doubles -/

/-- The quotient `ofDecimal` rounds is the decimal's value. -/
theorem decimal_quotient (mant : Nat) (exp : Int) :
    ((mant * 10 ^ exp.toNat : Nat) : ℚ) / ((10 ^ (-exp).toNat : Nat) : ℚ) =
      mant * (10 : ℚ) ^ exp := by
  rcases le_or_gt 0 exp with h | h
  · rw [show (-exp).toNat = 0 by omega]
    push_cast
    rw [div_one, ← zpow_natCast, Int.toNat_of_nonneg h]
  · rw [show exp.toNat = 0 by omega]
    push_cast
    rw [← zpow_natCast, Int.toNat_of_nonneg (by omega), zpow_neg, div_eq_mul_inv, inv_inv,
      mul_one]

/-- `10 ^ 310` is past `2 ^ 1024`, where the finite doubles end. -/
theorem two_zpow_le_ten_zpow : (2 : ℚ) ^ (1024 : Int) ≤ 10 ^ (310 : Int) := by
  have h : (2 : Nat) ^ 1024 ≤ 10 ^ 310 := by decide +kernel
  have hq : ((2 : Nat) : ℚ) ^ 1024 ≤ ((10 : Nat) : ℚ) ^ 310 := by
    rw [← Nat.cast_pow, ← Nat.cast_pow]; exact Nat.cast_le.2 h
  rw [show (1024 : Int) = ((1024 : Nat) : Int) from rfl,
    show (310 : Int) = ((310 : Nat) : Int) from rfl, zpow_natCast, zpow_natCast]
  simpa only [Nat.cast_ofNat] using hq

/-- `10 ^ (-327)` is below `2 ^ (-1076)`, a quarter of the least subnormal. -/
theorem ten_zpow_le_two_zpow : (10 : ℚ) ^ (-327 : Int) ≤ 2 ^ (-1076 : Int) := by
  have h : (2 : Nat) ^ 1076 ≤ 10 ^ 327 := by decide +kernel
  have hq : ((2 : Nat) : ℚ) ^ 1076 ≤ ((10 : Nat) : ℚ) ^ 327 := by
    rw [← Nat.cast_pow, ← Nat.cast_pow]; exact Nat.cast_le.2 h
  rw [show (-327 : Int) = -((327 : Nat) : Int) from rfl,
    show (-1076 : Int) = -((1076 : Nat) : Int) from rfl, zpow_neg, zpow_neg, zpow_natCast,
    zpow_natCast]
  simp only [Nat.cast_ofNat] at hq
  exact inv_anti₀ (by positivity) hq

/-- A positive decimal lies between the powers of ten of its leading place and the next. -/
theorem decimal_bounds {mant : Nat} (hm : 0 < mant) (exp : Int) :
    (10 : ℚ) ^ (exp + Decimal.digitCount mant - 1) ≤ mant * 10 ^ exp ∧
      (mant : ℚ) * 10 ^ exp < 10 ^ (exp + Decimal.digitCount mant) := by
  have hpos := digitCount_pos mant
  have hlo : ((10 ^ (Decimal.digitCount mant - 1) : Nat) : ℚ) ≤ mant := by
    exact_mod_cast pow_digitCount_le hm
  have hhi : (mant : ℚ) < ((10 ^ Decimal.digitCount mant : Nat) : ℚ) := by
    exact_mod_cast lt_pow_digitCount mant
  push_cast at hlo hhi
  rw [← zpow_natCast] at hlo hhi
  constructor
  · calc (10 : ℚ) ^ (exp + Decimal.digitCount mant - 1)
        = 10 ^ (((Decimal.digitCount mant - 1 : Nat) : Int)) * 10 ^ exp := by
          rw [← zpow_add₀ (by norm_num)]; congr 1; omega
      _ ≤ mant * 10 ^ exp := by gcongr
  · calc (mant : ℚ) * 10 ^ exp < 10 ^ ((Decimal.digitCount mant : Nat) : Int) * 10 ^ exp := by
          gcongr
      _ = 10 ^ (exp + Decimal.digitCount mant) := by
          rw [← zpow_add₀ (by norm_num)]; congr 1; omega

/-- `ofDecimal` rounds the decimal's value to the nearest double: the shortcuts it takes
for exponents far outside the range of doubles give what rounding gives. -/
theorem ofDecimal_eq_round (neg : Bool) (mant : Nat) (exp : Int) :
    ofDecimal neg mant exp = Binary.round neg (mant * 10 ^ exp.toNat) (10 ^ (-exp).toNat) := by
  unfold ofDecimal
  split
  · rename_i hm
    subst hm
    simp [Binary.round]
  · rename_i hm
    have hmpos : 0 < mant := Nat.pos_of_ne_zero hm
    have hn : 0 < mant * 10 ^ exp.toNat := Nat.mul_pos hmpos (Nat.pow_pos (by decide))
    have hd : 0 < 10 ^ (-exp).toNat := Nat.pow_pos (by decide)
    obtain ⟨hlo, hhi⟩ := decimal_bounds hmpos exp
    rw [← decimal_quotient] at hlo hhi
    dsimp only
    split
    · rename_i htop
      refine (Binary.round_of_huge hn hd ?_).symm
      calc (2 : ℚ) ^ (1024 : Int) ≤ 10 ^ (310 : Int) := two_zpow_le_ten_zpow
        _ ≤ 10 ^ (exp + Decimal.digitCount mant - 1) :=
          zpow_le_zpow_right₀ (by norm_num) (by omega)
        _ ≤ _ := by exact_mod_cast hlo
    · split
      · rename_i _ htop
        refine (Binary.round_of_tiny hn hd ?_).symm
        calc _ ≤ (10 : ℚ) ^ (exp + Decimal.digitCount mant) := by exact_mod_cast hhi.le
          _ ≤ 10 ^ (-327 : Int) := zpow_le_zpow_right₀ (by norm_num) (by omega)
          _ ≤ 2 ^ (-1076 : Int) := ten_zpow_le_two_zpow
      · split
        · rename_i hexp
          rw [show (-exp).toNat = 0 by omega, Nat.pow_zero]
        · rename_i hexp
          rw [show exp.toNat = 0 by omega, Nat.pow_zero, Nat.mul_one]

/-! ## Plain decimal texts -/

/-- A character of a plain decimal text: a digit or the point. -/
def PlainChar (c : Char) : Prop := c.isDigit = true ∨ c = '.'

instance : DecidablePred PlainChar := fun _ => inferInstanceAs (Decidable (_ ∨ _))

theorem isDecimalChar_of_isDigit {c : Char} (h : c.isDigit = true) : isDecimalChar c = true := by
  simp [isDecimalChar, h]

theorem isDecimalChar_of_plainChar {c : Char} (h : PlainChar c) : isDecimalChar c = true := by
  rcases h with h | rfl
  · exact isDecimalChar_of_isDigit h
  · rfl

theorem isBlank_of_plainChar {c : Char} (h : PlainChar c) : Text.isBlank c = false := by
  rcases h with h | rfl
  · simp only [Char.isDigit, Bool.and_eq_true, decide_eq_true_eq] at h
    obtain ⟨h1, h2⟩ := h
    have h1' : 48 ≤ c.toNat := h1
    have h2' : c.toNat ≤ 57 := h2
    simp only [Text.isBlank, Bool.or_eq_false_iff, Bool.and_eq_false_iff, beq_eq_false_iff_ne,
      decide_eq_false_iff_not]
    omega
  · rfl

/-- A text without blanks is its own trimming. -/
theorem trim_eq_self {s : String} (h : ∀ c ∈ s.toList, Text.isBlank c = false) :
    Text.trim s = s := by
  have hdrop : ∀ l : List Char, (∀ c ∈ l, Text.isBlank c = false) → l.dropWhile Text.isBlank = l := by
    intro l hl
    induction l with
    | nil => rfl
    | cons c t _ => simp [hl c List.mem_cons_self]
  unfold Text.trim
  rw [hdrop _ h, hdrop _ (by simpa using h), List.reverse_reverse, String.ofList_toList]

/-- A run of digits followed by anything that does not start with a digit splits there. -/
theorem spanDigits_append {ds rest : List Char} (hds : ∀ c ∈ ds, c.isDigit = true)
    (hrest : ∀ c ∈ rest.head?, c.isDigit = false) : spanDigits (ds ++ rest) = (ds, rest) := by
  induction ds with
  | nil =>
    cases rest with
    | nil => rfl
    | cons c t =>
      have hc : c.isDigit = false := hrest c rfl
      simp [spanDigits, hc]
  | cons c t ih =>
    have hc : c.isDigit = true := hds c List.mem_cons_self
    have ht := ih fun c hc => hds c (List.mem_cons_of_mem _ hc)
    simp only [spanDigits, Prod.mk.injEq] at ht
    simp [spanDigits, hc, ht.1, ht.2]

theorem spanDigits_of_digits {ds : List Char} (hds : ∀ c ∈ ds, c.isDigit = true) :
    spanDigits ds = (ds, []) := by
  simpa using @spanDigits_append ds [] hds (by simp)

/-- Digits alone read as an integer. -/
theorem readDecimal_digits {ds : List Char} (hds : ∀ c ∈ ds, c.isDigit = true) (hne : ds ≠ []) :
    readDecimal ds = some (digitsValue ds, 0) := by
  unfold readDecimal
  simp [spanDigits_of_digits hds, hne]

/-- Digits around a point read with the fraction digits as a negative exponent. -/
theorem readDecimal_point {whole frac : List Char} (hw : ∀ c ∈ whole, c.isDigit = true)
    (hf : ∀ c ∈ frac, c.isDigit = true) (hne : whole ≠ []) :
    readDecimal (whole ++ '.' :: frac) = some (digitsValue (whole ++ frac), -(frac.length : Int)) := by
  have hspan : spanDigits (whole ++ '.' :: frac) = (whole, '.' :: frac) :=
    spanDigits_append hw (by simp)
  unfold readDecimal
  simp [hspan, spanDigits_of_digits hf, hne]

theorem toList_toString (n : Nat) : (toString n).toList = Nat.toDigits 10 n := by
  rw [Nat.toString_eq_repr, Nat.toList_repr]

theorem toList_zeros (k : Nat) : (Decimal.zeros k).toList = List.replicate k '0' := by
  simp [Decimal.zeros]

theorem isDigit_of_mem_toDigits {n : Nat} {c : Char} (h : c ∈ Nat.toDigits 10 n) :
    c.isDigit = true :=
  Nat.isDigit_of_mem_toDigits (by decide) (by decide) h

/-- The positional text of a decimal reads back as a decimal of the same value. -/
theorem readDecimal_positional (d : Decimal) :
    ∃ mant exp, readDecimal d.positional.toList = some (mant, exp) ∧
      (mant : ℚ) * 10 ^ exp = d.digits * 10 ^ d.exp := by
  have hD := toList_toString d.digits
  have hlen : (toString d.digits).length = (Nat.toDigits 10 d.digits).length := by
    rw [← String.length_toList, hD]
  have hdig : ∀ c ∈ Nat.toDigits 10 d.digits, c.isDigit = true := fun _ => isDigit_of_mem_toDigits
  have hval := digitsValue_toDigits d.digits
  have hne := Nat.toDigits_ne_nil (n := d.digits) (b := 10)
  unfold Decimal.positional
  dsimp only
  rw [hlen]
  split
  · rename_i hexp
    refine ⟨d.digits * 10 ^ d.exp.toNat, 0, ?_, ?_⟩
    · simp only [String.toList_append, hD, toList_zeros]
      rw [readDecimal_digits, digitsValue_append, hval, digitsValue_replicate_zero,
        List.length_replicate, Nat.add_zero]
      · intro c hc
        rcases List.mem_append.1 hc with hc | hc
        · exact hdig c hc
        · rw [List.eq_of_mem_replicate hc]; rfl
      · simp [hne]
    · push_cast
      rw [mul_one, ← zpow_natCast, Int.toNat_of_nonneg hexp]
  · rename_i hexp
    split
    · rename_i hfrac
      refine ⟨d.digits, d.exp, ?_, rfl⟩
      generalize hk : (Nat.toDigits 10 d.digits).length - (-d.exp).toNat = k
      have htext : (String.ofList ((toString d.digits).toList.take k) ++ "." ++
          String.ofList ((toString d.digits).toList.drop k)).toList =
          (Nat.toDigits 10 d.digits).take k ++ '.' :: (Nat.toDigits 10 d.digits).drop k := by
        simp
      rw [htext, readDecimal_point (fun c hc => hdig c (List.mem_of_mem_take hc))
          (fun c hc => hdig c (List.mem_of_mem_drop hc)) (by simp; omega),
        List.take_append_drop, hval, List.length_drop]
      congr 3
      omega
    · rename_i hfrac
      refine ⟨d.digits, d.exp, ?_, rfl⟩
      have htext : ("0." ++ Decimal.zeros ((-d.exp).toNat - (Nat.toDigits 10 d.digits).length) ++
          toString d.digits).toList =
          ['0'] ++ '.' :: (List.replicate ((-d.exp).toNat - (Nat.toDigits 10 d.digits).length) '0' ++
            Nat.toDigits 10 d.digits) := by
        simp [toList_zeros]
      rw [htext, readDecimal_point (by simp) ?_ (by simp)]
      · have h0 : digitsValue ['0'] = 0 := rfl
        rw [← List.append_assoc, digitsValue_append, digitsValue_append, h0,
          digitsValue_replicate_zero, hval]
        simp only [zero_mul, zero_add, List.length_append, List.length_replicate,
          Option.some.injEq, Prod.mk.injEq, true_and]
        omega
      · intro c hc
        rcases List.mem_append.1 hc with hc | hc
        · rw [List.eq_of_mem_replicate hc]; rfl
        · exact hdig c hc

/-- Every character of a positional text is a digit or the point. -/
theorem plainChar_of_mem_positional (d : Decimal) : ∀ c ∈ d.positional.toList, PlainChar c := by
  have hD := toList_toString d.digits
  have hdig : ∀ c ∈ (toString d.digits).toList, PlainChar c := fun c hc =>
    .inl (isDigit_of_mem_toDigits (hD ▸ hc))
  have hzero : ∀ k, ∀ c ∈ (Decimal.zeros k).toList, PlainChar c := fun k c hc => by
    rw [toList_zeros] at hc
    rw [List.eq_of_mem_replicate hc]
    exact .inl rfl
  intro c hc
  unfold Decimal.positional at hc
  dsimp only at hc
  split at hc
  · rcases List.mem_append.1 (String.toList_append ▸ hc) with hc | hc
    exacts [hdig c hc, hzero _ c hc]
  · split at hc
    · simp only [String.toList_append, String.toList_ofList, List.mem_append] at hc
      rcases hc with (hc | hc) | hc
      · exact hdig c (List.mem_of_mem_take hc)
      · exact .inr (by simpa using hc)
      · exact hdig c (List.mem_of_mem_drop hc)
    · simp only [String.toList_append, List.mem_append] at hc
      rcases hc with (hc | hc) | hc
      · simp only [show "0.".toList = ['0', '.'] from rfl, List.mem_cons, List.mem_nil_iff,
          or_false] at hc
        rcases hc with rfl | rfl
        exacts [.inl rfl, .inr rfl]
      · exact hzero _ c hc
      · exact hdig c hc

/-- A text of decimal characters has no radix prefix: radix letters are not among them. -/
theorem radixPrefix_of_isDecimalChar {cs : List Char} (h : ∀ c ∈ cs, isDecimalChar c = true) :
    radixPrefix cs = none := by
  rcases cs with _ | ⟨a, _ | ⟨b, t⟩⟩
  · rfl
  · unfold radixPrefix
    split <;> simp_all
  · have hb : isDecimalChar b = true := h b (by simp)
    unfold radixPrefix
    split
    all_goals first
      | rfl
      | (rename_i heq
         simp only [List.cons.injEq] at heq
         obtain ⟨-, rfl, -⟩ := heq
         exfalso
         revert hb
         decide)

/-- The floating reader takes a decimal literal without a sign as it is. -/
theorem readFloat_of_readDecimal {cs : List Char} {mant : Nat} {exp : Int}
    (hhead : ∀ c ∈ cs.head?, c ≠ '-' ∧ c ≠ '+') (hr : readDecimal cs = some (mant, exp)) :
    readFloat cs = some (ofDecimal false mant exp) := by
  have hne : cs ≠ [] := by
    rintro rfl
    simp [readDecimal, spanDigits] at hr
  obtain ⟨c, t, rfl⟩ := List.exists_cons_of_ne_nil hne
  obtain ⟨h1, h2⟩ := hhead c rfl
  unfold readFloat
  split
  rename_i neg rest hsplit
  have hnr : neg = false ∧ rest = c :: t := by
    split at hsplit <;> simp_all
  obtain ⟨rfl, rfl⟩ := hnr
  simp [hr]

/-- A plain decimal text, with a minus or without, reads as its decimal rounded. -/
theorem ofText_plain (neg : Bool) {s : String} {mant : Nat} {exp : Int}
    (hs : ∀ c ∈ s.toList, PlainChar c) (hr : readDecimal s.toList = some (mant, exp)) :
    ofText ((if neg then "-" else "") ++ s) =
      if neg then -(ofDecimal false mant exp) else ofDecimal false mant exp := by
  have hne : s.toList ≠ [] := by
    rintro h
    simp [h, readDecimal, spanDigits] at hr
  obtain ⟨c, t, hct⟩ := List.exists_cons_of_ne_nil hne
  -- the first character is a digit or the point: no sign, and not the `I` of `Infinity`
  have hc : PlainChar c := hs c (by simp [hct])
  have hsign : c ≠ '-' ∧ c ≠ '+' ∧ c ≠ 'I' := by
    rcases hc with hc | rfl
    · refine ⟨?_, ?_, ?_⟩ <;> rintro rfl <;> revert hc <;> decide
    · decide
  have hfloat := readFloat_of_readDecimal (by simp [hct, hsign]) hr
  have hchars : ∀ c ∈ s.toList, isDecimalChar c = true := fun c hc =>
    isDecimalChar_of_plainChar (hs c hc)
  have hrad := radixPrefix_of_isDecimalChar hchars
  have hdec : (s.toList.all isDecimalChar) = true := List.all_eq_true.2 hchars
  have htrim : Text.trim ((if neg then "-" else "") ++ s) = (if neg then "-" else "") ++ s := by
    refine trim_eq_self fun c hc => ?_
    cases neg
    · simpa using isBlank_of_plainChar (hs c (by simpa using hc))
    · simp only [if_true, String.toList_append, List.mem_append] at hc
      rcases hc with hc | hc
      · simp only [show "-".toList = ['-'] from rfl, List.mem_singleton] at hc
        subst hc; decide
      · exact isBlank_of_plainChar (hs c hc)
  unfold ofText
  rw [htrim]
  cases neg
  · simp only [Bool.false_eq_true, if_false, String.empty_append]
    rw [hct] at hrad hdec hfloat ⊢
    simp [hsign, hrad, hdec, hfloat]
  · simp only [if_true, String.toList_append, show "-".toList = ['-'] from rfl,
      List.singleton_append]
    rw [hct] at hrad hdec hfloat ⊢
    simp [hsign, hrad, hdec, hfloat]

end Number

end ScriptLib
