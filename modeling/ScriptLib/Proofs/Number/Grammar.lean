import ScriptLib.Proofs.Number.Reading

/-!
# The grammar of number texts

`Number.ofText` trims its text, takes one sign off it and then tries three readers in turn:
a radix reader behind a `0x`, `0b` or `0o` prefix (only when no sign was taken), the word
`Infinity`, and the floating reader for texts of decimal characters. The floating reader
and the radix reader each take a sign of their own, so the texts read as numbers are not
only the documented ones.

`Literal` is the grammar of the texts read as numbers, with `Literal.text` its writing and
`Literal.value` the number each stands for. Both directions go through `magnitudeOf`, what
the readers make of the text after its sign (`ofText_eq_magnitude`). The reader reads
exactly the texts of literals (`ofText_eq_read`, `exists_literal_of_isNaN_ofText`): every
other text is NaN. The two
forms the documented grammar lacks are a second sign before a decimal literal and a plus
after a radix prefix (`Literal.Documented`). The floating reader stops counting exponent
digits past `0x10000`, so a literal is read as its value when its exponent is below that
(`Literal.read_eq_value`).
-/

namespace ScriptLib

namespace Number

/-! ## The grammar of number texts -/

/-- A written sign: none, a plus (`some false`) or a minus (`some true`). -/
def signText : Option Bool → List Char
  | none => []
  | some false => ['+']
  | some true => ['-']

/-- A number with a written sign applied: negated after a minus. -/
def applySign (s : Option Bool) (x : Double) : Double :=
  if s = some true then -x else x

/-- The exponent part of a decimal literal: `e` or `E`, a sign if written, and digits. -/
structure ExponentPart where
  upper : Bool
  sign : Option Bool
  digits : List Char
  digits_ne_nil : digits ≠ []
  isDigit_of_mem : ∀ c ∈ digits, c.isDigit = true

namespace ExponentPart

def text (x : ExponentPart) : List Char :=
  (if x.upper then 'E' else 'e') :: (signText x.sign ++ x.digits)

/-- The exponent the part writes. -/
def value (x : ExponentPart) : Int :=
  if x.sign = some true then -(digitsValue x.digits : Int) else digitsValue x.digits

/-- The exponent as the reader counts it: its digits stop counting once past `0x10000`. -/
def saturated (x : ExponentPart) : Int :=
  if x.sign = some true then -(exponentValue x.digits : Int) else exponentValue x.digits

end ExponentPart

/-- A decimal literal: digits, a point and more digits if a point is written, and an
exponent if one is written; at least one digit before the exponent. -/
structure DecimalLiteral where
  whole : List Char
  point : Bool
  frac : List Char
  exponent : Option ExponentPart
  isDigit_of_mem_whole : ∀ c ∈ whole, c.isDigit = true
  isDigit_of_mem_frac : ∀ c ∈ frac, c.isDigit = true
  frac_eq_nil : point = false → frac = []
  has_digit : whole ≠ [] ∨ frac ≠ []

namespace DecimalLiteral

def text (d : DecimalLiteral) : List Char :=
  d.whole ++ ((if d.point then '.' :: d.frac else []) ++ (d.exponent.map ExponentPart.text).getD [])

/-- The digits of the literal, before and after the point, as one natural number. -/
def mantissa (d : DecimalLiteral) : Nat := digitsValue (d.whole ++ d.frac)

/-- The power of ten that scales the mantissa to the literal's value. -/
def scale (d : DecimalLiteral) : Int :=
  (d.exponent.map ExponentPart.value).getD 0 - d.frac.length

/-- The scale as the reader counts it. -/
def saturatedScale (d : DecimalLiteral) : Int :=
  (d.exponent.map ExponentPart.saturated).getD 0 - d.frac.length

/-- The double nearest to the literal's value, with a sign. -/
def rounded (neg : Bool) (d : DecimalLiteral) : Double :=
  Binary.round neg (d.mantissa * 10 ^ d.scale.toNat) (10 ^ (-d.scale).toNat)

end DecimalLiteral

/-- The prefixes of radix literals: the letter after the `0`, and the radix it names. -/
def radixLetters : List (Char × Nat) :=
  [('x', 16), ('X', 16), ('b', 2), ('B', 2), ('o', 8), ('O', 8)]

/-- The value of digits in a radix. -/
def digitsIn (radix : Nat) (ds : List Char) : Nat :=
  ds.foldl (fun n c => radix * n + (digitIn radix c).getD 0) 0

/-- An unsigned radix literal: `0`, a letter naming the radix, and at least one digit of
that radix, with a value below `2 ^ 64`. -/
structure RadixLiteral where
  letter : Char
  radix : Nat
  digits : List Char
  letter_mem : (letter, radix) ∈ radixLetters
  digits_ne_nil : digits ≠ []
  isSome_digitIn : ∀ c ∈ digits, (digitIn radix c).isSome
  value_lt : digitsIn radix digits < 2 ^ 64

/-- The texts the script reads as numbers, after trimming. The documented ones are
`Infinity` or a decimal literal after one sign at most, and unsigned radix literals. The
reader also takes a second sign before a decimal literal, which the floating reader reads,
and a plus after a radix prefix. -/
inductive Literal where
  | infinity (sign : Option Bool)
  | decimal (sign : Option Bool) (d : DecimalLiteral)
  | radix (plus : Bool) (r : RadixLiteral)
  | twoSigns (outer inner : Bool) (d : DecimalLiteral)

namespace Literal

def text : Literal → List Char
  | infinity s => signText s ++ "Infinity".toList
  | decimal s d => signText s ++ d.text
  | radix plus r => '0' :: r.letter :: ((if plus then ['+'] else []) ++ r.digits)
  | twoSigns o i d => signText (some o) ++ (signText (some i) ++ d.text)

/-- The literals of the documented grammar. -/
def Documented : Literal → Prop
  | radix plus _ => plus = false
  | twoSigns .. => False
  | _ => True

/-- The exponent of a decimal literal, if it has one, is below `0x10000`. -/
def ExponentFits : Literal → Prop
  | decimal _ d | twoSigns _ _ d => ∀ x ∈ d.exponent, digitsValue x.digits < 0x10000
  | _ => True

/-- The number a literal stands for: its value rounded to the nearest double, and the sign
applied. -/
def value : Literal → Double
  | infinity s => applySign s (Binary.infinity false)
  | decimal s d => applySign s (d.rounded false)
  | radix _ r => Binary.ofInt (digitsIn r.radix r.digits)
  | twoSigns o i d => applySign (some o) (d.rounded i)

end Literal

/-! ## Signs -/

/-- Every text is a sign, if any, and a rest that starts with none. -/
theorem exists_signText_append (cs : List Char) :
    ∃ s u, cs = signText s ++ u ∧ (s = none → ∀ c ∈ u.head?, c ≠ '-' ∧ c ≠ '+') := by
  rcases cs with _ | ⟨c, u⟩
  · exact ⟨none, [], rfl, by simp⟩
  by_cases hminus : c = '-'
  · exact ⟨some true, u, by rw [hminus]; rfl, by simp⟩
  by_cases hplus : c = '+'
  · exact ⟨some false, u, by rw [hplus]; rfl, by simp⟩
  exact ⟨none, c :: u, rfl, fun _ c' hc' => by simp_all⟩

/-- The sign every reader here takes off the front of a text is the written one. -/
theorem takeSign_eq {s : Option Bool} {u rest : List Char} {neg : Bool}
    (hu : s = none → ∀ c ∈ u.head?, c ≠ '-' ∧ c ≠ '+')
    (hsplit : (match signText s ++ u with
      | '-' :: t => (true, t)
      | '+' :: t => (false, t)
      | t => (false, t)) = (neg, rest)) : neg = (s == some true) ∧ rest = u := by
  rcases s with _ | _ | _ <;> simp only [signText, List.nil_append, List.cons_append] at hsplit <;>
    (try split at hsplit) <;> simp_all

/-! ## Digits and exponents -/

/-- `spanDigits` splits a text into its leading digits and a rest that starts with none. -/
theorem spanDigits_eq {cs ds rest : List Char} (h : spanDigits cs = (ds, rest)) :
    cs = ds ++ rest ∧ (∀ c ∈ ds, c.isDigit = true) ∧ ∀ c ∈ rest.head?, c.isDigit = false := by
  simp only [spanDigits, Prod.mk.injEq] at h
  obtain ⟨rfl, rfl⟩ := h
  refine ⟨List.takeWhile_append_dropWhile.symm, fun c hc => ?_, fun c hc => ?_⟩
  · exact List.all_eq_true.1 List.all_takeWhile c hc
  · have := List.head?_dropWhile_not Char.isDigit cs
    rw [Option.mem_def] at hc
    rw [hc] at this
    exact this

theorem not_sign_of_isDigit {c : Char} (h : c.isDigit = true) : c ≠ '-' ∧ c ≠ '+' := by
  constructor <;> rintro rfl <;> revert h <;> decide

/-- A sign and digits read as an exponent, counted as the reader counts. -/
theorem readExponent_signText (s : Option Bool) {ds : List Char} (hne : ds ≠ [])
    (hds : ∀ c ∈ ds, c.isDigit = true) :
    readExponent (signText s ++ ds) =
      some (if s = some true then -(exponentValue ds : Int) else exponentValue ds) := by
  have hspan := spanDigits_of_digits hds
  obtain ⟨c, t, rfl⟩ := List.exists_cons_of_ne_nil hne
  obtain ⟨h1, h2⟩ := not_sign_of_isDigit (hds c (by simp))
  rcases s with _ | _ | _ <;> simp [readExponent, signText, hspan, h1, h2]

/-- What `readExponent` accepts: a sign if any, and at least one digit. -/
theorem readExponent_eq_some {cs : List Char} {v : Int} (h : readExponent cs = some v) :
    ∃ s ds, cs = signText s ++ ds ∧ ds ≠ [] ∧ (∀ c ∈ ds, c.isDigit = true) ∧
      v = if s = some true then -(exponentValue ds : Int) else exponentValue ds := by
  obtain ⟨s, u, rfl, hu⟩ := exists_signText_append cs
  unfold readExponent at h
  split at h
  rename_i neg rest hsplit
  obtain ⟨rfl, rfl⟩ := takeSign_eq hu hsplit
  rcases hsp : spanDigits rest with ⟨a, b⟩
  obtain ⟨rfl, ha, -⟩ := spanDigits_eq hsp
  rw [hsp] at h
  rcases a with _ | ⟨d, a⟩ <;> rcases b with _ | ⟨e, b⟩ <;> simp at h
  refine ⟨s, d :: a, by simp, by simp, by simpa using ha, ?_⟩
  rw [← h]

theorem isDecimalChar_of_mem_signText {s : Option Bool} : ∀ c ∈ signText s, isDecimalChar c = true := by
  rcases s with _ | _ | _ <;> simp [signText] <;> rfl

/-! ## Decimal literals -/

namespace ExponentPart

theorem head_text (x : ExponentPart) : x.text.head? = some (if x.upper then 'E' else 'e') := rfl

/-- An exponent part after the letter reads as its exponent, counted as the reader counts. -/
theorem readExponent_text (x : ExponentPart) :
    readExponent (signText x.sign ++ x.digits) = some x.saturated :=
  readExponent_signText x.sign x.digits_ne_nil x.isDigit_of_mem

end ExponentPart

namespace DecimalLiteral

/-- A decimal literal reads as its mantissa and its scale, counted as the reader counts. -/
theorem readDecimal_text (d : DecimalLiteral) :
    readDecimal d.text = some (d.mantissa, d.saturatedScale) := by
  obtain ⟨w, p, f, ex, hw, hf, hpf, hd⟩ := d
  have hne : ¬(w.isEmpty = true ∧ f.isEmpty = true) := by
    rcases hd with h | h <;> simp [h]
  have hspan : ∀ {ds : List Char} (E : List Char), (∀ c ∈ ds, c.isDigit = true) →
      (∀ c ∈ E.head?, c.isDigit = false) → spanDigits (ds ++ E) = (ds, E) :=
    fun E hds hE => spanDigits_append hds hE
  rcases ex with _ | x
  · cases p
    · obtain rfl := hpf rfl
      simp_all [text, readDecimal, spanDigits_of_digits hw, mantissa, saturatedScale]
    · simp_all [text, readDecimal, hspan ('.' :: f) hw (by simp), spanDigits_of_digits hf, mantissa,
        saturatedScale]
  · have hexp := x.readExponent_text
    obtain ⟨up, s, ds, hne', hds⟩ := x
    have hE : ∀ c : Char, c = 'e' ∨ c = 'E' → ∀ E : List Char,
        (∀ x ∈ (c :: E).head?, x.isDigit = false) := by
      rintro c (rfl | rfl) E x hx <;> simp at hx <;> subst hx <;> rfl
    cases up <;> cases p
    · obtain rfl := hpf rfl
      simp_all [text, ExponentPart.text, readDecimal, hspan ('e' :: (signText s ++ ds)) hw (hE _ (.inl rfl) _),
        mantissa, saturatedScale, ExponentPart.saturated]
    · simp_all [text, ExponentPart.text, readDecimal, hspan ('.' :: (f ++ 'e' :: (signText s ++ ds))) hw (by simp),
        hspan ('e' :: (signText s ++ ds)) hf (hE _ (.inl rfl) _), mantissa, saturatedScale,
        ExponentPart.saturated]
      omega
    · obtain rfl := hpf rfl
      simp_all [text, ExponentPart.text, readDecimal, hspan ('E' :: (signText s ++ ds)) hw (hE _ (.inr rfl) _),
        mantissa, saturatedScale, ExponentPart.saturated]
    · simp_all [text, ExponentPart.text, readDecimal, hspan ('.' :: (f ++ 'E' :: (signText s ++ ds))) hw (by simp),
        hspan ('E' :: (signText s ++ ds)) hf (hE _ (.inr rfl) _), mantissa, saturatedScale,
        ExponentPart.saturated]
      omega

/-- The parts of a decimal literal, put together. -/
theorem exists_of_parts {w f r : List Char} {p : Bool} {m : Nat} {e : Int}
    (hw : ∀ c ∈ w, c.isDigit = true) (hf : ∀ c ∈ f, c.isDigit = true) (hpf : p = false → f = [])
    (hparts : ∃ x : Option ExponentPart, r = (x.map ExponentPart.text).getD [] ∧
      (w ≠ [] ∨ f ≠ []) ∧ m = digitsValue (w ++ f) ∧
      e = (x.map ExponentPart.saturated).getD 0 - f.length) :
    ∃ d : DecimalLiteral, w ++ ((if p then '.' :: f else []) ++ r) = d.text ∧ m = d.mantissa ∧
      e = d.saturatedScale := by
  obtain ⟨x, rfl, hd, rfl, rfl⟩ := hparts
  exact ⟨⟨w, p, f, x, hw, hf, hpf, hd⟩, rfl, rfl, rfl⟩

/-- What `readDecimal` accepts is a decimal literal, read as its mantissa and scale. -/
theorem exists_of_readDecimal {cs : List Char} {m : Nat} {e : Int}
    (h : readDecimal cs = some (m, e)) :
    ∃ d : DecimalLiteral, cs = d.text ∧ m = d.mantissa ∧ e = d.saturatedScale := by
  unfold readDecimal at h
  rcases hsp : spanDigits cs with ⟨w, aw⟩
  obtain ⟨rfl, hw, haw⟩ := spanDigits_eq hsp
  rw [hsp] at h
  dsimp only at h
  split at h
  on_goal 1 =>
    rename_i t
    rcases hsp' : spanDigits t with ⟨f, r⟩
    obtain ⟨rfl, hf, -⟩ := spanDigits_eq hsp'
    rw [hsp'] at h
    dsimp only at h
    refine @exists_of_parts w f r true m e hw hf (by simp) ?_
  on_goal 2 =>
    rename_i hnot
    refine @exists_of_parts w [] aw false m e hw (by simp) (fun _ => rfl) ?_
    dsimp only at h
  all_goals
    split_ifs at h with hempty
    rw [List.isEmpty_iff, List.isEmpty_iff] at hempty
    split at h
    next =>
      cases h
      exact ⟨none, rfl, not_and_or.1 hempty, rfl, by simp⟩
    next c t =>
      split_ifs at h with hc
      obtain ⟨x, hx, hxe⟩ := Option.map_eq_some_iff.1 h
      cases hxe
      obtain ⟨sg, ds, rfl, hne, hds, rfl⟩ := readExponent_eq_some hx
      refine ⟨some ⟨decide (c = 'E'), sg, ds, hne, hds⟩, ?_, not_and_or.1 hempty, rfl, ?_⟩
      · rcases hc with rfl | rfl <;> rfl
      · simp only [Option.map_some, Option.getD_some, ExponentPart.saturated]
        omega

/-- A decimal literal starts with a digit or with its point. -/
theorem head_text (d : DecimalLiteral) :
    ∃ c, d.text.head? = some c ∧ (c.isDigit = true ∨ c = '.') := by
  rcases hw : d.whole with _ | ⟨c, w⟩
  · have hf : d.frac ≠ [] := d.has_digit.resolve_left (by simp [hw])
    have hp : d.point = true := by
      cases hp : d.point
      · exact absurd (d.frac_eq_nil hp) hf
      · rfl
    exact ⟨'.', by simp [text, hw, hp], .inr rfl⟩
  · exact ⟨c, by simp [text, hw], .inl (d.isDigit_of_mem_whole c (by simp [hw]))⟩

/-- A decimal literal never starts with a minus: its sign is written outside it. -/
theorem text_ne_minus_cons (d : DecimalLiteral) (rest : List Char) : d.text ≠ '-' :: rest := by
  intro h
  obtain ⟨c, hc, hhead⟩ := d.head_text
  rw [h, List.head?_cons, Option.some.injEq] at hc
  subst hc
  exact absurd hhead (by decide)

/-- Every character of a decimal literal passes the whitelist of decimal texts. -/
theorem isDecimalChar_of_mem_text (d : DecimalLiteral) : ∀ c ∈ d.text, isDecimalChar c = true := by
  intro c hc
  simp only [text, List.mem_append] at hc
  rcases hc with hc | hc | hc
  · exact isDecimalChar_of_isDigit (d.isDigit_of_mem_whole c hc)
  · split at hc
    · rcases List.mem_cons.1 hc with rfl | hc
      · rfl
      · exact isDecimalChar_of_isDigit (d.isDigit_of_mem_frac c hc)
    · simp at hc
  · rcases hx : d.exponent with _ | x
    · simp [hx] at hc
    · simp only [hx, Option.map_some, Option.getD_some, ExponentPart.text, List.mem_cons,
        List.mem_append] at hc
      rcases hc with rfl | hc | hc
      · split <;> rfl
      · exact isDecimalChar_of_mem_signText c hc
      · exact isDecimalChar_of_isDigit (x.isDigit_of_mem c hc)

end DecimalLiteral

theorem toLower_of_isDigit {c : Char} (h : c.isDigit = true) : c.toLower = c := by
  simp only [Char.isDigit, Bool.and_eq_true, decide_eq_true_eq] at h
  obtain ⟨-, h2⟩ := h
  have h2' : c.toNat ≤ 57 := h2
  unfold Char.toLower
  rw [dif_neg]
  rintro ⟨h3, -⟩
  have h3' : 65 ≤ c.toNat := h3
  omega

/-- No character of a decimal text lowers to the first letter of `inf`, `infinity` or `nan`. -/
theorem toLower_ne_of_isDecimalChar {c : Char} (h : isDecimalChar c = true) :
    c.toLower ≠ 'i' ∧ c.toLower ≠ 'n' := by
  simp only [isDecimalChar, Bool.or_eq_true, beq_iff_eq] at h
  rcases h with ((((hd | rfl) | rfl) | rfl) | rfl) | rfl
  · rw [toLower_of_isDigit hd]
    constructor <;> rintro rfl <;> revert hd <;> decide
  all_goals decide

/-! ## The floating reader -/

/-- The sign the floating reader takes off a text that starts with a written sign or with
no sign at all. -/
theorem readFloat_signText (i : Option Bool) (d : DecimalLiteral) :
    readFloat (signText i ++ d.text) =
      some (ofDecimal (i == some true) d.mantissa d.saturatedScale) := by
  obtain ⟨c, hc, hcd⟩ := d.head_text
  have hsign : c ≠ '-' ∧ c ≠ '+' := by
    rcases hcd with h | rfl
    · exact not_sign_of_isDigit h
    · decide
  have hne : d.text.isEmpty = false := by
    rcases h : d.text with _ | ⟨c', t⟩
    · simp [h] at hc
    · rfl
  unfold readFloat
  split
  rename_i neg rest hsplit
  obtain ⟨rfl, rfl⟩ := takeSign_eq (fun _ c' hc' => by rw [hc] at hc'; cases hc'; exact hsign) hsplit
  rw [if_neg (by simp [hne]), d.readDecimal_text]

/-- What the floating reader accepts of a decimal text: a decimal literal after a sign, if
any, rounded with that sign. -/
theorem exists_of_readFloat {cs : List Char} {x : Double}
    (hdec : ∀ c ∈ cs, isDecimalChar c = true) (h : readFloat cs = some x) :
    ∃ i d, cs = signText i ++ DecimalLiteral.text d ∧
      x = ofDecimal (i == some true) d.mantissa d.saturatedScale := by
  obtain ⟨i, u, rfl, hu⟩ := exists_signText_append cs
  unfold readFloat at h
  split at h
  rename_i neg rest hsplit
  obtain ⟨rfl, rfl⟩ := takeSign_eq hu hsplit
  have hne : rest ≠ [] := by
    rintro rfl
    simp at h
  rw [if_neg (by simpa using hne)] at h
  split at h
  · rename_i mant exp hr
    cases h
    obtain ⟨d, rfl, rfl, rfl⟩ := DecimalLiteral.exists_of_readDecimal hr
    exact ⟨i, d, rfl, rfl⟩
  · -- a decimal text spells none of the words the reader also takes
    exfalso
    obtain ⟨c, t, rfl⟩ := List.exists_cons_of_ne_nil hne
    have hc := toLower_ne_of_isDecimalChar (hdec c (by simp))
    simp [isWord, hc] at h

/-! ## Radix literals -/

/-- `radixPrefix` finds a `0` and a radix letter. -/
theorem radixPrefix_eq_some_iff {cs ds : List Char} {radix : Nat} :
    radixPrefix cs = some (radix, ds) ↔
      ∃ letter, cs = '0' :: letter :: ds ∧ (letter, radix) ∈ radixLetters := by
  constructor
  · intro h
    unfold radixPrefix at h
    split at h <;> simp only [Option.some.injEq, Prod.mk.injEq, reduceCtorEq] at h <;>
      obtain ⟨rfl, rfl⟩ := h <;> exact ⟨_, rfl, by simp [radixLetters]⟩
  · rintro ⟨letter, rfl, hmem⟩
    simp only [radixLetters, List.mem_cons, Prod.mk.injEq, List.not_mem_nil, or_false] at hmem
    rcases hmem with ⟨rfl, rfl⟩ | ⟨rfl, rfl⟩ | ⟨rfl, rfl⟩ | ⟨rfl, rfl⟩ | ⟨rfl, rfl⟩ | ⟨rfl, rfl⟩ <;>
      rfl

/-- Reading digits of a radix one by one gives their value, when every one is a digit. -/
theorem foldlM_digitIn {radix : Nat} {ds : List Char} {acc n : Nat}
    (h : ds.foldlM (fun n c => (digitIn radix c).map fun d => radix * n + d) acc = some n) :
    (∀ c ∈ ds, (digitIn radix c).isSome) ∧
      n = ds.foldl (fun n c => radix * n + (digitIn radix c).getD 0) acc := by
  induction ds generalizing acc with
  | nil =>
    cases h
    exact ⟨by simp, rfl⟩
  | cons c ds ih =>
    rw [List.foldlM_cons] at h
    rcases hc : digitIn radix c with _ | v
    · simp [hc] at h
    · simp only [hc, Option.map_some] at h
      obtain ⟨hall, rfl⟩ := ih h
      refine ⟨fun c' hc' => ?_, by simp [hc]⟩
      rcases List.mem_cons.1 hc' with rfl | hc'
      · simp [hc]
      · exact hall c' hc'

theorem foldlM_digitIn_of_isSome {radix : Nat} {ds : List Char} (acc : Nat)
    (h : ∀ c ∈ ds, (digitIn radix c).isSome) :
    ds.foldlM (fun n c => (digitIn radix c).map fun d => radix * n + d) acc =
      some (ds.foldl (fun n c => radix * n + (digitIn radix c).getD 0) acc) := by
  induction ds generalizing acc with
  | nil => rfl
  | cons c ds ih =>
    obtain ⟨v, hv⟩ := Option.isSome_iff_exists.1 (h c (by simp))
    simpa [hv] using ih (radix * acc + v) fun c' hc' => h c' (List.mem_cons_of_mem _ hc')

/-- A plus is a digit of no radix. -/
theorem digitIn_plus (radix : Nat) : digitIn radix '+' = none := by
  simp [digitIn]

/-- `readRadix` reads a plus, if any, and then digits of the radix with a value below `2 ^ 64`. -/
theorem readRadix_eq_some_iff {radix n : Nat} {cs : List Char} :
    readRadix radix cs = some n ↔ ∃ (plus : Bool) (ds : List Char), cs = (if plus then ['+'] else []) ++ ds ∧
      ds ≠ [] ∧ (∀ c ∈ ds, (digitIn radix c).isSome) ∧ n = digitsIn radix ds ∧ n < 2 ^ 64 := by
  constructor
  · intro h
    unfold readRadix at h
    dsimp only at h
    split at h
    on_goal 1 => refine ⟨true, _ :: _, rfl, ?_⟩
    on_goal 2 => refine ⟨false, _, rfl, ?_⟩
    all_goals
      split_ifs at h with hempty
      split at h
      next n' hn' =>
        split_ifs at h with hlt
        cases h
        obtain ⟨hall, rfl⟩ := foldlM_digitIn hn'
        exact ⟨fun hnil => hempty (by rw [hnil]; rfl), hall, rfl, hlt⟩
      next => cases h
  · rintro ⟨plus, ds, rfl, hne, hall, rfl, hlt⟩
    obtain ⟨c, t, rfl⟩ := List.exists_cons_of_ne_nil hne
    have hc : c ≠ '+' := by
      rintro rfl
      simp [digitIn_plus] at hall
    have hfold := foldlM_digitIn_of_isSome 0 hall
    cases plus
    · simpa [readRadix, hc, hfold, digitsIn] using hlt
    · simpa [readRadix, hfold, digitsIn] using hlt

/-! ## Reading a number text -/

/-- A double is NaN when its exponent field is all ones and its fraction is not zero. -/
theorem isNaN_eq (x : Double) : isNaN x =
    decide (x.bits.toNat % Binary.signPlace / Binary.fractionCount = 2047 ∧
      x.bits.toNat % Binary.fractionCount ≠ 0) := by
  unfold isNaN Binary.ofDouble Binary.ofBits
  dsimp only
  rw [Nat.mod_eq_of_lt x.bits.toNat_lt]
  by_cases h1 : x.bits.toNat % Binary.signPlace / Binary.fractionCount = 2047
  · by_cases h2 : x.bits.toNat % Binary.fractionCount = 0 <;> simp [h1, h2]
  · rw [if_neg h1]
    split_ifs <;> simp [h1]

/-- Negation flips the sign bit only, so a NaN stays a NaN and nothing else becomes one. -/
theorem isNaN_neg (x : Double) : isNaN (-x) = isNaN x := by
  have hb := x.bits.toNat_lt
  have hbits : (-x).bits.toNat = (x.bits.toNat + Binary.signPlace) % 2 ^ 64 := by
    show (Binary.negate x).bits.toNat = _
    rw [Binary.negate, Binary.toNat_bits_toDouble, Nat.mod_mod]
  have he : (x.bits.toNat + Binary.signPlace) % 2 ^ 64 % Binary.signPlace =
      x.bits.toNat % Binary.signPlace := by
    unfold Binary.signPlace at *
    omega
  have hf : (x.bits.toNat + Binary.signPlace) % 2 ^ 64 % Binary.fractionCount =
      x.bits.toNat % Binary.fractionCount := by
    unfold Binary.signPlace Binary.fractionCount at *
    omega
  rw [isNaN_eq, isNaN_eq, hbits, he, hf]

theorem isNaN_nan : isNaN nan = true := by decide

theorem isNaN_applySign (s : Option Bool) (x : Double) : isNaN (applySign s x) = isNaN x := by
  unfold applySign
  split
  · exact isNaN_neg x
  · rfl

theorem isNaN_ofDecimal (neg : Bool) (mant : Nat) (exp : Int) :
    isNaN (ofDecimal neg mant exp) = false := by
  rw [ofDecimal_eq_round]
  exact Binary.isNaN_round _ _ _

/-- Exponent digits below `0x10000` are counted in full. -/
theorem exponentValue_eq_digitsValue {ds : List Char} (h : digitsValue ds < 0x10000) :
    exponentValue ds = digitsValue ds := by
  -- the running value never decreases, so while the whole is small, every prefix is too
  have key : ∀ (a : Nat) (ds : List Char),
      ds.foldl (fun n c => 10 * n + (c.toNat - '0'.toNat)) a < 0x10000 →
      ds.foldl (fun n c => if n < 0x10000 then 10 * n + (c.toNat - '0'.toNat) else n) a =
        ds.foldl (fun n c => 10 * n + (c.toNat - '0'.toNat)) a := by
    intro a ds
    induction ds generalizing a with
    | nil => intro _; rfl
    | cons c ds ih =>
      intro hlt
      have hle : a ≤ (c :: ds).foldl (fun n c => 10 * n + (c.toNat - '0'.toNat)) a := by
        rw [foldl_digits]
        have h10 : 1 ≤ 10 ^ (c :: ds).length := Nat.one_le_pow _ _ (by decide)
        nlinarith
      simp only [List.foldl_cons] at hlt hle ⊢
      rw [if_pos (by omega)]
      exact ih _ hlt
  exact key 0 ds h

theorem ExponentPart.saturated_eq_value {x : ExponentPart} (h : digitsValue x.digits < 0x10000) :
    x.saturated = x.value := by
  simp [saturated, value, exponentValue_eq_digitsValue h]

namespace Literal

/-- The number `ofText` gives for a literal: its value, with the exponent counted as the
reader counts it. -/
def read : Literal → Double
  | infinity s => applySign s (Binary.infinity false)
  | decimal s d => applySign s (ofDecimal false d.mantissa d.saturatedScale)
  | radix _ r => Binary.ofInt (digitsIn r.radix r.digits)
  | twoSigns o i d => applySign (some o) (ofDecimal i d.mantissa d.saturatedScale)

theorem isNaN_read (L : Literal) : isNaN L.read = false := by
  cases L with
  | infinity s => rw [read, isNaN_applySign]; rfl
  | decimal s d => rw [read, isNaN_applySign, isNaN_ofDecimal]
  | radix plus r => exact Binary.isNaN_round _ _ _
  | twoSigns o i d => rw [read, isNaN_applySign, isNaN_ofDecimal]

/-- With its exponent counted in full, the reading of a literal is its value. -/
theorem read_eq_value {L : Literal} (h : L.ExponentFits) : L.read = L.value := by
  have hscale : ∀ d : DecimalLiteral, (∀ x ∈ d.exponent, digitsValue x.digits < 0x10000) →
      d.saturatedScale = d.scale := by
    intro d hd
    rcases hx : d.exponent with _ | x
    · simp [DecimalLiteral.saturatedScale, DecimalLiteral.scale, hx]
    · simp [DecimalLiteral.saturatedScale, DecimalLiteral.scale, hx,
        ExponentPart.saturated_eq_value (hd x hx)]
  cases L with
  | infinity s => rfl
  | decimal s d =>
    simp only [read, value, DecimalLiteral.rounded, ofDecimal_eq_round, hscale d h]
  | radix plus r => rfl
  | twoSigns o i d =>
    simp only [read, value, DecimalLiteral.rounded, ofDecimal_eq_round, hscale d h]

end Literal

/-- A decimal literal is no radix literal, and not the word `Infinity`. -/
theorem DecimalLiteral.text_ne_infinity (d : DecimalLiteral) : (d.text == "Infinity".toList) = false := by
  obtain ⟨c, hc, hcd⟩ := d.head_text
  rcases h : d.text with _ | ⟨c', t⟩
  · simp [h] at hc
  · simp only [h, List.head?_cons, Option.some.injEq] at hc
    subst hc
    have hI : c' ≠ 'I' := by
      rcases hcd with hcd | rfl
      · rintro rfl
        revert hcd
        decide
      · decide
    simp [hI]

/-- What `ofText` checks of a decimal literal after a sign, if any: no radix prefix, not
the word `Infinity`, and every character on the whitelist. -/
theorem signText_decimal_checks (i : Option Bool) (d : DecimalLiteral) :
    radixPrefix (signText i ++ d.text) = none ∧
      (signText i ++ d.text == "Infinity".toList) = false ∧
      (!(signText i ++ d.text).isEmpty && (signText i ++ d.text).all isDecimalChar) = true := by
  have hdec : ∀ c ∈ signText i ++ d.text, isDecimalChar c = true := by
    intro c hc
    rcases List.mem_append.1 hc with hc | hc
    exacts [isDecimalChar_of_mem_signText c hc, d.isDecimalChar_of_mem_text c hc]
  refine ⟨radixPrefix_of_isDecimalChar hdec, ?_, ?_⟩
  · rcases i with _ | _ | _
    · simpa [signText] using d.text_ne_infinity
    all_goals simp [signText]
  · obtain ⟨c, hc, -⟩ := d.head_text
    have hne : signText i ++ d.text ≠ [] := by
      intro h0
      simp [List.append_eq_nil_iff] at h0
      simp [h0.2] at hc
    simp only [List.isEmpty_eq_false_iff.2 hne, Bool.not_false, Bool.true_and, List.all_eq_true]
    exact hdec

/-- What `ofText` makes of the text after its sign `s`: a number, or nothing when no reader
takes the text. A radix literal is refused after a sign. -/
def magnitudeOf (s : Option Bool) (u : List Char) : Option Double :=
  match radixPrefix u with
  | some (radix, ds) =>
    if s ≠ none then none
    else (readRadix radix ds).map fun n => Binary.ofInt n
  | none =>
    if u == "Infinity".toList then some infinity
    else if !u.isEmpty && u.all isDecimalChar then
      some ((readFloat u).getD nan)
    else none

/-- `ofText` reads a text as its sign applied to the magnitude of the rest, and as NaN when
the rest has none. -/
theorem ofText_eq_magnitude {text : String} {s : Option Bool} {u : List Char}
    (ht : (Text.trim text).toList = signText s ++ u)
    (hu : s = none → ∀ c ∈ u.head?, c ≠ '-' ∧ c ≠ '+') :
    ofText text = ((magnitudeOf s u).map (applySign s)).getD nan := by
  unfold ofText
  rw [ht]
  extract_lets t
  split
  rename_i neg unsigned hsplit
  obtain ⟨rfl, rfl⟩ := takeSign_eq hu hsplit
  extract_lets magnitude
  -- the length check of the radix path holds exactly when no sign was taken
  have hlen : (unsigned.length ≠ t.length) = (s ≠ none) := by
    rcases s with _ | _ | _ <;> simp [t, signText]
  have hm : magnitude = magnitudeOf s unsigned := by
    simp only [magnitude, hlen]
    rfl
  rw [hm]
  cases magnitudeOf s unsigned <;> simp [applySign]

/-- A decimal literal after a sign, if any, has the magnitude the floating reader gives it. -/
theorem magnitudeOf_decimal (s i : Option Bool) (d : DecimalLiteral) :
    magnitudeOf s (signText i ++ d.text) =
      some (ofDecimal (i == some true) d.mantissa d.saturatedScale) := by
  obtain ⟨hrad, hinf, hdec⟩ := signText_decimal_checks i d
  simp only [magnitudeOf, hrad, hinf, hdec, readFloat_signText, Bool.false_eq_true, if_false,
    if_true, Option.getD_some]

/-- `ofText` reads the text of every literal as the literal. -/
theorem ofText_eq_read {text : String} {L : Literal} (h : (Text.trim text).toList = L.text) :
    ofText text = L.read := by
  cases L with
  | infinity s =>
    rw [ofText_eq_magnitude h (by simp)]
    cases s <;> rfl
  | decimal s d =>
    obtain ⟨c, hc, hcd⟩ := d.head_text
    have hu : s = none → ∀ c' ∈ d.text.head?, c' ≠ '-' ∧ c' ≠ '+' := by
      intro _ c' hc'
      rw [hc, Option.mem_def, Option.some.injEq] at hc'
      subst hc'
      rcases hcd with hcd | rfl
      exacts [not_sign_of_isDigit hcd, by decide]
    have hm := magnitudeOf_decimal s none d
    simp only [signText, List.nil_append] at hm
    rw [ofText_eq_magnitude h hu, hm]
    simp [Literal.read]
  | radix plus r =>
    have h' : (Text.trim text).toList = signText none ++ (Literal.radix plus r).text := h
    have hrad : radixPrefix (Literal.radix plus r).text =
        some (r.radix, (if plus then ['+'] else []) ++ r.digits) :=
      radixPrefix_eq_some_iff.2 ⟨r.letter, rfl, r.letter_mem⟩
    have hread : readRadix r.radix ((if plus then ['+'] else []) ++ r.digits) =
        some (digitsIn r.radix r.digits) :=
      readRadix_eq_some_iff.2 ⟨plus, r.digits, rfl, r.digits_ne_nil, r.isSome_digitIn, rfl, r.value_lt⟩
    rw [ofText_eq_magnitude h' (by simp [Literal.text])]
    simp [magnitudeOf, hrad, hread, Literal.read, applySign]
  | twoSigns o i d =>
    rw [ofText_eq_magnitude h (by simp), magnitudeOf_decimal]
    cases i <;> simp [Literal.read]

/-- Every text `ofText` reads as a number is the text of a literal. -/
theorem exists_literal_of_isNaN_ofText {text : String} (h : isNaN (ofText text) = false) :
    ∃ L : Literal, (Text.trim text).toList = L.text := by
  obtain ⟨s, u, ht, hu⟩ := exists_signText_append (Text.trim text).toList
  rw [ofText_eq_magnitude ht hu] at h
  rw [ht]
  obtain ⟨x, hmag⟩ : ∃ x, magnitudeOf s u = some x := by
    cases hm : magnitudeOf s u with
    | none =>
      rw [hm, Option.map_none, Option.getD_none, isNaN_nan] at h
      exact Bool.noConfusion h
    | some x => exact ⟨x, rfl⟩
  rw [hmag, Option.map_some, Option.getD_some, isNaN_applySign] at h
  unfold magnitudeOf at hmag
  split at hmag
  · rename_i radix ds hrad
    split_ifs at hmag with hs
    obtain ⟨n, hn, rfl⟩ := Option.map_eq_some_iff.1 hmag
    obtain ⟨m, hm, rfl⟩ : ∃ m, readRadix radix ds = some m ∧ n = m := by
      cases hr : readRadix radix ds <;> simp_all
    rw [not_ne_iff] at hs
    subst hs
    obtain ⟨letter, rfl, hmem⟩ := radixPrefix_eq_some_iff.1 hrad
    obtain ⟨plus, digits, rfl, hne, hall, rfl, hlt⟩ := readRadix_eq_some_iff.1 hm
    exact ⟨.radix plus ⟨letter, radix, digits, hmem, hne, hall, hlt⟩, rfl⟩
  · split_ifs at hmag with hinf hdec
    · refine ⟨.infinity s, ?_⟩
      simp only [beq_iff_eq] at hinf
      rw [hinf]
      rfl
    · -- a decimal text: the floating reader must accept it, or the result is a NaN
      cases hr : readFloat u with
      | none =>
        rw [hr, Option.getD_none, Option.some.injEq] at hmag
        rw [← hmag, isNaN_nan] at h
        exact Bool.noConfusion h
      | some y =>
        have hchars : ∀ c ∈ u, isDecimalChar c = true := by
          simp only [Bool.and_eq_true, List.all_eq_true] at hdec
          exact hdec.2
        obtain ⟨i, d, rfl, -⟩ := exists_of_readFloat hchars hr
        rcases s with _ | o
        · exact ⟨.decimal i d, by simp [Literal.text, signText]⟩
        · rcases i with _ | b
          · exact ⟨.decimal (some o) d, by simp [Literal.text, signText]⟩
          · exact ⟨.twoSigns o b d, rfl⟩

/-- A doubled minus is no literal of the documented grammar. -/
theorem not_documented_of_text_eq_minus_minus {L : Literal} {rest : List Char}
    (h : L.text = '-' :: '-' :: rest) : ¬ L.Documented := by
  cases L with
  | infinity s => rcases s with _ | _ | _ <;> simp [Literal.text, signText] at h
  | decimal s d =>
    rcases s with _ | _ | _
    · exact absurd h (d.text_ne_minus_cons _)
    · simp [Literal.text, signText] at h
    · simp only [Literal.text, signText, List.cons_append, List.nil_append, List.cons.injEq,
        true_and] at h
      exact absurd h (d.text_ne_minus_cons _)
  | radix plus r => simp [Literal.text] at h
  | twoSigns o i d => exact id

end Number

open Number in
/-- The texts `ofText` reads as numbers are exactly the texts of literals, after trimming,
and each is read as the literal's value when its exponent is below `0x10000`. The
literals include two the documented grammar lacks: a second sign before a decimal literal
and a plus after a radix prefix. -/
theorem number_texts_follow_their_grammar (text : String) :
    (isNaN (ofText text) = false ↔ ∃ L : Literal, (Text.trim text).toList = L.text) ∧
      ∀ L : Literal, (Text.trim text).toList = L.text → L.ExponentFits →
        ofText text = L.value := by
  refine ⟨⟨exists_literal_of_isNaN_ofText, ?_⟩, ?_⟩
  · rintro ⟨L, hL⟩
    rw [ofText_eq_read hL]
    exact L.isNaN_read
  · intro L hL hfits
    rw [ofText_eq_read hL]
    exact Literal.read_eq_value hfits

open Number in
theorem minus_one_reads_as_its_literal :
    (Text.trim "-1").toList = (Literal.decimal (some true)
        ⟨['1'], false, [], none, fun c hc => by rw [List.mem_singleton.1 hc]; rfl,
          fun c hc => absurd hc List.not_mem_nil, fun _ => rfl, Or.inl (List.cons_ne_nil _ _)⟩).text ∧
      ofText "-1" = (Literal.decimal (some true)
        ⟨['1'], false, [], none, fun c hc => by rw [List.mem_singleton.1 hc]; rfl,
          fun c hc => absurd hc List.not_mem_nil, fun _ => rfl, Or.inl (List.cons_ne_nil _ _)⟩).value :=
  ⟨rfl, (number_texts_follow_their_grammar "-1").2 _ rfl (fun x hx => by simp at hx)⟩

open Number in
theorem doubled_minus_reads_as_a_number :
    ofText "--1" = ofText "1" ∧ isNaN (ofText "--1") = false ∧
      ¬ ∃ L : Literal, L.Documented ∧ (Text.trim "--1").toList = L.text := by
  refine ⟨by decide, by decide, ?_⟩
  rintro ⟨L, hdoc, hL⟩
  have htext : L.text = ['-', '-', '1'] := hL.symm
  exact not_documented_of_text_eq_minus_minus htext hdoc

end ScriptLib
