import ScriptLib.Heap.Equality
import Mathlib

/-!
# Equal values share a slot

A map looks a probe up only in the bucket of the probe's slot, so a key equal to the probe
must have the probe's slot. It does, for deep equality in every heap, with any pairs open
and any room left (`slot_eq_of_equalIn`). Two lists, or two maps, share the container slot.
Every other equal pair has the same canonical text (two numbers equal as doubles are
written alike: `Number.format_eq_of_eq`), and the slot of a value is the slot of its
canonical text (`slot_eq_text_slot`), because no text of nil, a boolean or a number starts
the way the text of a container does.
-/

namespace ScriptLib

/-! ## The fields of a finite double -/

namespace Binary

/-- The fields of a finite double as `ofBits` gives them: a mantissa below `2 ^ 53`, an
exponent at least the least one, and the hidden bit set unless the exponent is the least. -/
def Canonical (m : Nat) (e : Int) : Prop :=
  m < 2 * fractionCount ∧ minExp ≤ e ∧ (fractionCount ≤ m ∨ e = minExp)

theorem canonical_of_ofBits {b : Nat} {neg : Bool} {m : Nat} {e : Int}
    (h : ofBits b = .finite neg m e) : Canonical m e := by
  have hf : b % fractionCount < fractionCount := Nat.mod_lt _ (by decide)
  unfold ofBits at h
  simp only at h
  split at h
  · split at h <;> cases h
  · split at h
    · cases h
      exact ⟨by omega, Int.le_refl _, .inr rfl⟩
    · rename_i hE
      cases h
      have hE1 : 1 ≤ b % signPlace / fractionCount := Nat.pos_of_ne_zero hE
      refine ⟨by omega, ?_, .inl (by omega)⟩
      simp only [minExp]
      omega

/-- Two finite doubles of one value have the same fields, unless both are zeros. -/
theorem fields_eq_of_scaled_eq {a b : Bool} {m n : Nat} {e f : Int} (hm : Canonical m e)
    (hn : Canonical n f)
    (h : scaled a m * 2 ^ (e - min e f).toNat = scaled b n * 2 ^ (f - min e f).toNat) :
    (m = 0 ∧ n = 0) ∨ (a = b ∧ m = n ∧ e = f) := by
  obtain ⟨hm1, hm2, hm3⟩ := hm
  obtain ⟨hn1, hn2, hn3⟩ := hn
  have habs := congrArg Int.natAbs h
  simp only [scaled, Int.natAbs_mul, Int.natAbs_pow] at habs
  rcases Int.lt_trichotomy e f with hef | rfl | hef
  · -- a smaller exponent needs a mantissa at least twice a normal one
    exfalso
    have hj : 2 ≤ 2 ^ (f - min e f).toNat :=
      Nat.le_self_pow (by omega) 2
    have hnorm : fractionCount ≤ n := hn3.resolve_right (by omega)
    have hmin : (e - min e f).toNat = 0 := by omega
    rw [hmin] at habs
    have : n * 2 ≤ n * 2 ^ (f - min e f).toNat := Nat.mul_le_mul_left n hj
    cases a <;> cases b <;> simp at habs <;> omega
  · simp only [Int.min_self, Int.sub_self, Int.toNat_zero, Int.pow_zero, Int.mul_one] at h
    cases a <;> cases b <;> simp [scaled] at h ⊢ <;> omega
  · exfalso
    have hj : 2 ≤ 2 ^ (e - min e f).toNat :=
      Nat.le_self_pow (by omega) 2
    have hnorm : fractionCount ≤ m := hm3.resolve_right (by omega)
    have hmin : (f - min e f).toNat = 0 := by omega
    rw [hmin] at habs
    have : m * 2 ≤ m * 2 ^ (e - min e f).toNat := Nat.mul_le_mul_left m hj
    cases a <;> cases b <;> simp at habs <;> omega

end Binary

/-! ## Texts of scalars -/

/-- The positional text of a decimal starts with a digit. -/
theorem Decimal.positional_head (d : Decimal) :
    ∃ c, d.positional.toList.head? = some c ∧ c.isDigit = true := by
  have hds : (toString d.digits).toList = Nat.toDigits 10 d.digits := by
    rw [Nat.toString_eq_repr, Nat.toList_repr]
  obtain ⟨c, cs, hc⟩ := List.exists_cons_of_ne_nil (Nat.toDigits_ne_nil (n := d.digits) (b := 10))
  have hdig : c.isDigit = true :=
    Nat.isDigit_of_mem_toDigits (by decide) (by decide) (hc ▸ List.mem_cons_self)
  unfold positional
  dsimp only
  split
  · exact ⟨c, by simp [hc], hdig⟩
  · split
    · rename_i hfrac
      have hlen : (toString d.digits).length = cs.length + 1 := by
        rw [← String.length_toList, hds, hc, List.length_cons]
      refine ⟨c, ?_, hdig⟩
      rw [hlen] at hfrac ⊢
      rw [String.toList_append, String.toList_append, String.toList_ofList, hds, hc]
      rw [show cs.length + 1 - (-d.exp).toNat = (cs.length - (-d.exp).toNat) + 1 by omega]
      simp
    · exact ⟨'0', by simp, by decide⟩

/-- A text whose first character is neither a bracket nor a brace hashes into its own slot. -/
theorem slot_str_eq_hash {s : String} (h₁ : s.toList.head? ≠ some '[')
    (h₂ : s.toList.head? ≠ some '\x7b') : (Value.str s).slot = Text.hash s := by
  simp only [Value.slot]
  split <;> simp_all

theorem slot_str_of_head {s : String} (h : s.toList.head? = some '[' ∨ s.toList.head? = some '\x7b') :
    (Value.str s).slot = containerSlot := by
  rcases h with h | h <;> obtain ⟨cs, hs⟩ := List.head?_eq_some_iff.1 h <;> simp [Value.slot, hs]

/-- The text of a number starts with a digit, a minus sign, or the first letter of `NaN` or
`Infinity`; never with a bracket or a brace. -/
theorem slot_format (x : Double) :
    (Value.str (Number.format x)).slot = Text.hash (Number.format x) := by
  obtain ⟨c, hc, hne⟩ : ∃ c, (Number.format x).toList.head? = some c ∧ c ≠ '[' ∧ c ≠ '\x7b' := by
    unfold Number.format NumberStyle.render
    cases Binary.ofDouble x with
    | nan => exact ⟨'N', by simp [NumberStyle.script], by decide⟩
    | inf neg =>
      cases neg
      · exact ⟨'I', by simp [NumberStyle.script], by decide⟩
      · exact ⟨'-', by simp [NumberStyle.script], by decide⟩
    | finite neg m e =>
      by_cases hm : m = 0
      · exact ⟨'0', by simp [hm, NumberStyle.script], by decide⟩
      · cases neg
        · obtain ⟨c, hc, hd⟩ := Decimal.positional_head (Decimal.shortest m e)
          refine ⟨c, by simpa [hm] using hc, ?_⟩
          constructor <;> rintro rfl <;> simp at hd
        · exact ⟨'-', by simp [hm], by decide⟩
  exact slot_str_eq_hash (by rw [hc]; simpa using hne.1) (by rw [hc]; simpa using hne.2)

/-- Two numbers equal as doubles are written alike: the two zeros are both `0`, and any
other value has only one pattern. -/
theorem Number.format_eq_of_eq {x y : Double} (h : Number.eq x y = true) :
    Number.format x = Number.format y := by
  unfold Number.eq Number.compare? at h
  unfold Number.format NumberStyle.render
  cases hx : Binary.ofDouble x with
  | nan => simp [hx] at h
  | inf a =>
    cases hy : Binary.ofDouble y with
    | nan => simp [hx, hy] at h
    | inf b => cases a <;> cases b <;> simp_all
    | finite => cases a <;> simp [hx, hy] at h
  | finite a m e =>
    cases hy : Binary.ofDouble y with
    | nan => simp [hx, hy] at h
    | inf b => cases b <;> simp [hx, hy] at h
    | finite b n f =>
      simp only [hx, hy, beq_iff_eq, Option.some.injEq, Std.compare_eq_eq_iff_eq] at h
      rcases Binary.fields_eq_of_scaled_eq (Binary.canonical_of_ofBits hx)
        (Binary.canonical_of_ofBits hy) h with ⟨rfl, rfl⟩ | ⟨rfl, rfl, rfl⟩
      · simp [NumberStyle.script]
      · rfl

theorem Number.format_of_isNaN {x : Double} (h : Number.isNaN x = true) :
    Number.format x = "NaN" := by
  unfold Number.isNaN at h
  unfold Number.format NumberStyle.render
  split at h
  · rename_i hx
    simp [hx, NumberStyle.script]
  · cases h

/-! ## The slot of a value is the slot of its text -/

theorem Heap.display_str (h : Heap) (s : String) : h.display (.str s) = s := by
  simp [display, textDepth, render, Value.scalarText]

theorem Heap.display_num (h : Heap) (x : Double) : h.display (.num x) = Number.format x := by
  simp [display, textDepth, render, Value.scalarText]

theorem Heap.head_display_list (h : Heap) (l : Handle) :
    (h.display (.list l)).toList.head? = some '[' := by
  simp [display, textDepth, render]

theorem Heap.head_display_map (h : Heap) (m : Handle) :
    (h.display (.map m)).toList.head? = some '\x7b' := by
  simp [display, textDepth, render]

/-- The slot of a value is the slot of its canonical text. -/
theorem slot_eq_text_slot (h : Heap) (v : Value) : v.slot = (Value.str (h.display v)).slot := by
  cases v with
  | nil => rw [slot_str_eq_hash] <;> simp [Heap.display, Heap.textDepth, Heap.render,
      Value.scalarText, Value.slot]
  | num x =>
    rw [Heap.display_num, slot_format]
    rfl
  | str s => rw [Heap.display_str]
  | bool b => cases b <;> rw [slot_str_eq_hash] <;> simp [Heap.display, Heap.textDepth,
      Heap.render, Value.scalarText, Value.slot]
  | list l => exact (slot_str_of_head (.inl (Heap.head_display_list h l))).symm
  | map m => exact (slot_str_of_head (.inr (Heap.head_display_map h m))).symm

/-- Deep equality never equates values of different slots. -/
theorem slot_eq_of_equalIn {h : Heap} {room : Nat} {opened : List OpenPair} {a b : Value}
    (heq : h.equalIn room opened a b = true) : a.slot = b.slot := by
  -- two lists, or two maps, share the container slot; any other equal pair has one text
  have htext : h.display a = h.display b → a.slot = b.slot := fun hd => by
    rw [slot_eq_text_slot h a, slot_eq_text_slot h b, hd]
  rw [Heap.equalIn.eq_def] at heq
  split at heq
  · rfl
  · rfl
  · rfl
  · rename_i x y
    apply htext
    rw [Heap.display_num, Heap.display_num]
    rcases Bool.or_eq_true_iff.1 heq with hxy | hnan
    · exact Number.format_eq_of_eq hxy
    · rw [Bool.and_eq_true] at hnan
      rw [Number.format_of_isNaN hnan.1, Number.format_of_isNaN hnan.2]
  · rename_i x y
    simp only [beq_iff_eq] at heq
    rw [heq]
  · exact htext (by simpa using heq)

/-- Deep equality never equates values of different slots, so the bucket of a probe's slot
holds every stored key equal to it. -/
theorem slot_eq_of_equal {h : Heap} {a b : Value} (heq : h.equal a b = true) :
    a.slot = b.slot :=
  slot_eq_of_equalIn heq

/-- An empty list equals its text `[]`, and the two share the container slot. -/
theorem empty_list_shares_slot_with_its_text :
    ({ lists := #[#[]] } : Heap).equal (.list 0) (.str "[]") = true ∧
      (Value.list 0).slot = (Value.str "[]").slot :=
  have heq : ({ lists := #[#[]] } : Heap).equal (.list 0) (.str "[]") = true := by decide
  ⟨heq, slot_eq_of_equal heq⟩

end ScriptLib
