import ScriptLib.Text.Bytes
import ScriptLib.Proofs.Text.Occurrences

/-!
# Searching a text by its bytes

The host searches and cuts a text as UTF-8 bytes, and answers in characters. The byte
offset of character `i` is the length of the bytes of the first `i` characters
(`byteOffset_eq`). It is a character boundary (`isCharBoundary_byteOffset`), and counting the
characters that start before it gives back `i` (`charsBefore_byteOffset`). So a cut between
two such offsets never panics, and gives the characters between the two positions
(`sliceBytes_byteOffset`).

A search by bytes finds what the search by characters finds. The bytes of one text start
with those of another exactly when its characters do, for no character's bytes begin
another's (`utf8_prefix_iff`). The bytes of a needle of whole characters begin with a byte
that continues no character, so they never match inside the bytes of a character
(`isPrefixOf_utf8_drop`), and the first byte at which they match is the offset of the first
character at which the needle occurs (`findIn_utf8`). Hence the searches and the slice of
the library answer as the character searches do, and never fail (`charFind_eq`,
`charRfind_eq`, `charSlice_eq`).
-/

namespace ScriptLib

namespace Text

/-! ## The scan -/

section Scan

variable {α : Type} [BEq α] {m : List α}

theorem findIn_of_isPrefixOf {rest : List α} (i : Nat) (h : m.isPrefixOf rest = true) :
    findIn m rest i = some i := by
  unfold findIn
  rw [if_pos h]

theorem findIn_nil (i : Nat) (h : m.isPrefixOf [] = false) : findIn m [] i = none := by
  rw [findIn, if_neg (by rw [h]; exact Bool.false_ne_true)]

theorem findIn_cons {x : α} {r : List α} (i : Nat) (h : m.isPrefixOf (x :: r) = false) :
    findIn m (x :: r) i = findIn m r (i + 1) := by
  rw [findIn, if_neg (by rw [h]; exact Bool.false_ne_true)]

/-- The scan answers relative to the position it starts from. -/
theorem findIn_add (m : List α) (k : Nat) :
    ∀ (u : List α) (i : Nat), findIn m u (i + k) = (findIn m u i).map (· + k)
  | [], i => by
    cases h : m.isPrefixOf []
    · rw [findIn_nil _ h, findIn_nil _ h]
      rfl
    · rw [findIn_of_isPrefixOf _ h, findIn_of_isPrefixOf _ h]
      rfl
  | x :: r, i => by
    cases h : m.isPrefixOf (x :: r)
    · rw [findIn_cons _ h, findIn_cons _ h, Nat.add_right_comm, findIn_add m k r (i + 1)]
    · rw [findIn_of_isPrefixOf _ h, findIn_of_isPrefixOf _ h]
      rfl

/-- The scan passes over a part at no position of which the needle starts. -/
theorem findIn_append_of_forall (m ys : List α) :
    ∀ (xs : List α) (i : Nat), (∀ k < xs.length, m.isPrefixOf (xs.drop k ++ ys) = false) →
      findIn m (xs ++ ys) i = findIn m ys (i + xs.length)
  | [], i, _ => rfl
  | x :: xs, i, h => by
    have h0 : m.isPrefixOf (x :: (xs ++ ys)) = false := h 0 (Nat.zero_lt_succ _)
    rw [List.cons_append, findIn_cons _ h0,
      findIn_append_of_forall m ys xs (i + 1) fun k hk => h (k + 1) (by simp; omega),
      List.length_cons, Nat.add_right_comm, Nat.add_assoc]

end Scan

/-! ## The bytes of a text -/

@[simp] theorem utf8_nil : utf8 [] = [] := rfl

@[simp] theorem utf8_cons (c : Char) (t : List Char) :
    utf8 (c :: t) = String.utf8EncodeChar c ++ utf8 t :=
  List.flatMap_cons

@[simp] theorem utf8_append (t u : List Char) : utf8 (t ++ u) = utf8 t ++ utf8 u :=
  List.flatMap_append

/-- The bytes of a text around those of its character `i`. -/
theorem utf8_eq_around (t : List Char) {i : Nat} (hi : i < t.length) :
    utf8 t = utf8 (t.take i) ++ (String.utf8EncodeChar t[i] ++ utf8 (t.drop (i + 1))) := by
  rw [← utf8_cons, ← List.drop_eq_getElem_cons hi, ← utf8_append, List.take_append_drop]

theorem isContinuation_ofNat (x : Nat) (hx : x < 256) :
    isContinuation (UInt8.ofNat x) = (128 ≤ x && x < 192) := by
  have h : (UInt8.ofNat x).toNat = x := by
    rw [UInt8.toNat_ofNat']
    exact Nat.mod_eq_of_lt hx
  simp only [isContinuation, UInt8.le_iff_toNat_le, UInt8.lt_iff_toNat_lt, h]
  rfl

/-- Byte `k` of a character continues it exactly when it is not the first. -/
theorem isContinuation_of_getElem?_utf8EncodeChar {c : Char} {k : Nat} {b : UInt8}
    (h : (String.utf8EncodeChar c)[k]? = some b) : isContinuation b = (k != 0) := by
  unfold String.utf8EncodeChar at h
  dsimp only at h
  generalize c.val.toNat = v at h
  -- one case per length of the encoding, then one per byte
  repeat' split at h
  all_goals
    rcases k with _ | _ | _ | _ | k <;>
      simp only [List.getElem?_cons_zero, List.getElem?_cons_succ, List.getElem?_nil,
        Option.some.injEq, reduceCtorEq] at h
  all_goals
    subst h
    rw [isContinuation_ofNat _ (by omega), Bool.eq_iff_iff]
    simp only [Bool.and_eq_true, decide_eq_true_eq, bne_iff_ne, ne_eq, not_true_eq_false,
      iff_false]
    omega

/-- The bytes of a character begin with a byte that continues no character. -/
theorem exists_utf8EncodeChar_eq_cons (c : Char) :
    ∃ b bs, String.utf8EncodeChar c = b :: bs ∧ isContinuation b = false := by
  obtain ⟨b, bs, hc⟩ := List.exists_cons_of_ne_nil (String.utf8EncodeChar_ne_nil (c := c))
  exact ⟨b, bs, hc, isContinuation_of_getElem?_utf8EncodeChar (k := 0) (by rw [hc]; rfl)⟩

/-- The bytes of a non-empty text begin with a byte that continues no character. -/
theorem exists_utf8_eq_cons {n : List Char} (hn : n ≠ []) :
    ∃ b bs, utf8 n = b :: bs ∧ isContinuation b = false := by
  obtain ⟨c, r, rfl⟩ := List.exists_cons_of_ne_nil hn
  obtain ⟨b, bs, hc, hb⟩ := exists_utf8EncodeChar_eq_cons c
  exact ⟨b, bs ++ utf8 r, by rw [utf8_cons, hc, List.cons_append], hb⟩

/-- A needle of whole characters never matches inside the bytes of a character. -/
theorem isPrefixOf_utf8_drop {n : List Char} (hn : n ≠ []) {c : Char} {k : Nat} (hk0 : k ≠ 0)
    (hk : k < c.utf8Size) (ys : List UInt8) :
    (utf8 n).isPrefixOf ((String.utf8EncodeChar c).drop k ++ ys) = false := by
  obtain ⟨b, bs, hn', hb⟩ := exists_utf8_eq_cons hn
  have hk' : k < (String.utf8EncodeChar c).length := by rwa [String.length_utf8EncodeChar]
  have hc := isContinuation_of_getElem?_utf8EncodeChar (List.getElem?_eq_getElem hk')
  have hne : (b == (String.utf8EncodeChar c)[k]) = false := by
    rw [beq_eq_false_iff_ne]
    rintro rfl
    rw [hb] at hc
    simp [hk0] at hc
  rw [hn', List.drop_eq_getElem_cons hk', List.cons_append, List.isPrefixOf_cons_cons, hne,
    Bool.false_and]

/-- A character is determined by its bytes, whatever follows them. -/
theorem eq_of_utf8EncodeChar_append {c d : Char} {xs ys : List UInt8}
    (h : String.utf8EncodeChar c ++ xs = String.utf8EncodeChar d ++ ys) : c = d := by
  have hc := ByteArray.utf8DecodeChar?_utf8EncodeChar_append (b := xs.toByteArray) (c := c)
  rw [← List.toByteArray_append, h, List.toByteArray_append,
    ByteArray.utf8DecodeChar?_utf8EncodeChar_append] at hc
  exact (Option.some.inj hc).symm

/-- The bytes of a text begin with those of another exactly when its characters do. -/
theorem utf8_prefix_iff {n u : List Char} : utf8 n <+: utf8 u ↔ n <+: u := by
  constructor
  · intro h
    induction n generalizing u with
    | nil => exact List.nil_prefix
    | cons c n ih =>
      obtain ⟨z, hz⟩ := h
      cases u with
      | nil => simp [String.utf8EncodeChar_ne_nil] at hz
      | cons d u =>
        rw [utf8_cons, utf8_cons, List.append_assoc] at hz
        obtain rfl := eq_of_utf8EncodeChar_append hz
        exact (List.prefix_cons_inj c).2 (ih ⟨z, List.append_cancel_left hz⟩)
  · rintro ⟨z, rfl⟩
    exact ⟨utf8 z, (utf8_append n z).symm⟩

theorem isPrefixOf_utf8 (n u : List Char) : (utf8 n).isPrefixOf (utf8 u) = n.isPrefixOf u := by
  rw [Bool.eq_iff_iff, List.isPrefixOf_iff_prefix, List.isPrefixOf_iff_prefix, utf8_prefix_iff]

/-- The first byte at which the bytes of a needle match is the offset of the first character
at which the needle occurs. -/
theorem findIn_utf8 (n : List Char) :
    ∀ (u : List Char) (i : Nat),
      findIn (utf8 n) (utf8 u) i = (findIn n u 0).map fun j => i + (utf8 (u.take j)).length
  | [], i => by
    have hb := isPrefixOf_utf8 n []
    rw [utf8_nil] at hb ⊢
    cases h : n.isPrefixOf []
    · rw [findIn_nil _ h, findIn_nil i (hb.trans h)]
      rfl
    · rw [findIn_of_isPrefixOf _ h, findIn_of_isPrefixOf i (hb.trans h)]
      rfl
  | c :: r, i => by
    cases h : n.isPrefixOf (c :: r)
    · -- past the first byte of `c`, the scan passes over the rest of its bytes
      have hn : n ≠ [] := by
        rintro rfl
        cases h
      have hb : (utf8 n).isPrefixOf (utf8 (c :: r)) = false := by rw [isPrefixOf_utf8, h]
      obtain ⟨b, bs, hc, -⟩ := exists_utf8EncodeChar_eq_cons c
      have hsize : c.utf8Size = bs.length + 1 := by
        rw [← String.length_utf8EncodeChar, hc, List.length_cons]
      have hinside : ∀ k < bs.length, (utf8 n).isPrefixOf (bs.drop k ++ utf8 r) = false := by
        intro k hk
        have := isPrefixOf_utf8_drop hn (c := c) (k := k + 1) (by omega) (by omega) (utf8 r)
        rwa [hc, List.drop_succ_cons] at this
      rw [utf8_cons, hc, List.cons_append] at hb ⊢
      rw [findIn_cons _ hb, findIn_append_of_forall _ _ bs (i + 1) hinside, findIn_utf8 n r,
        findIn_cons _ h, ← Nat.zero_add 1, findIn_add, Option.map_map]
      congr 1
      funext j
      simp only [Function.comp_apply, List.take_succ_cons, utf8_cons, List.length_append,
        String.length_utf8EncodeChar, hsize]
      omega
    · rw [findIn_of_isPrefixOf _ h, findIn_of_isPrefixOf i (by rw [isPrefixOf_utf8, h])]
      rfl

/-! ## Character offsets in bytes -/

theorem length_charStarts (t : List Char) : (charStarts t).length = t.length := by
  induction t with
  | nil => rfl
  | cons c r ih => simp [charStarts, ih]

theorem getElem?_charStarts (t : List Char) (i : Nat) :
    (charStarts t)[i]? = if i < t.length then some (utf8 (t.take i)).length else none := by
  induction t generalizing i with
  | nil => simp [charStarts]
  | cons c r ih =>
    cases i with
    | zero => simp [charStarts]
    | succ i =>
      simp only [charStarts, List.getElem?_cons_succ, List.getElem?_map, ih, List.length_cons,
        List.take_succ_cons, utf8_cons, List.length_append, String.length_utf8EncodeChar,
        Nat.add_lt_add_iff_right]
      split
      · simp only [Option.map_some, Nat.add_comm]
      · rfl

/-- Character `i` starts after the bytes of the characters before it. -/
theorem byteOffset_eq (t : List Char) (i : Nat) : byteOffset t i = (utf8 (t.take i)).length := by
  unfold byteOffset
  rw [getElem?_charStarts]
  split
  · rfl
  · rw [List.take_of_length_le (by omega)]
    rfl

theorem byteOffset_add (t : List Char) (i k : Nat) :
    byteOffset t (i + k) = byteOffset t i + (utf8 ((t.drop i).take k)).length := by
  rw [byteOffset_eq, byteOffset_eq, List.take_add, utf8_append, List.length_append]

theorem byteOffset_mono (t : List Char) {i j : Nat} (h : i ≤ j) :
    byteOffset t i ≤ byteOffset t j := by
  rw [show j = i + (j - i) by omega, byteOffset_add]
  exact Nat.le_add_right _ _

/-- Every position past the last character has the offset of the end. -/
theorem byteOffset_min_length (t : List Char) (i : Nat) :
    byteOffset t (min i t.length) = byteOffset t i := by
  rw [byteOffset_eq, byteOffset_eq]
  rcases Nat.le_total i t.length with h | h
  · rw [Nat.min_eq_left h]
  · rw [Nat.min_eq_right h, List.take_length, List.take_of_length_le h]

theorem byteOffset_length (t : List Char) : byteOffset t t.length = (utf8 t).length := by
  rw [byteOffset_eq, List.take_length]

/-- Counting the characters that start before the offset of character `i` gives `i`. -/
theorem charsBefore_byteOffset (t : List Char) {i : Nat} (hi : i ≤ t.length) :
    charsBefore t (byteOffset t i) = i := by
  unfold charsBefore
  rw [byteOffset_eq]
  induction t generalizing i with
  | nil =>
    simp only [List.length_nil, Nat.le_zero] at hi
    subst hi
    rfl
  | cons c r ih =>
    cases i with
    | zero =>
      simp [charStarts]
    | succ i =>
      have hr := ih (i := i) (by simpa using hi)
      -- the first character starts before the offset, and the others are shifted by its size
      have hshift : ((fun x => decide (x < (utf8 ((c :: r).take (i + 1))).length)) ∘
          fun x => x + c.utf8Size) = fun x => decide (x < (utf8 (r.take i)).length) := by
        funext x
        simp only [Function.comp_apply, List.take_succ_cons, utf8_cons, List.length_append,
          String.length_utf8EncodeChar]
        exact decide_eq_decide.2 (by omega)
      have hfirst : 0 < (utf8 ((c :: r).take (i + 1))).length := by
        simp only [List.take_succ_cons, utf8_cons, List.length_append,
          String.length_utf8EncodeChar]
        have := c.utf8Size_pos
        omega
      rw [charStarts, List.countP_cons, List.countP_map, hshift, hr, if_pos (decide_eq_true hfirst)]

/-- The offset of a character is a boundary between characters. -/
theorem isCharBoundary_byteOffset (t : List Char) (i : Nat) :
    isCharBoundary t (byteOffset t i) = true := by
  unfold isCharBoundary
  rw [Bool.or_eq_true]
  right
  rcases Nat.lt_or_ge i t.length with hi | hi
  · obtain ⟨b, bs, hc, hb⟩ := exists_utf8EncodeChar_eq_cons t[i]
    have hbyte : (utf8 t)[byteOffset t i]? = some b := by
      rw [utf8_eq_around t hi, byteOffset_eq, List.getElem?_append_right (Nat.le_refl _),
        Nat.sub_self, hc]
      rfl
    rw [hbyte]
    show (!isContinuation b) = true
    rw [hb]
    rfl
  · rw [byteOffset_eq, List.take_of_length_le hi, List.getElem?_eq_none (Nat.le_refl _)]
    exact beq_self_eq_true _

/-- A cut between the offsets of two characters in order never panics, and gives the
characters between them. -/
theorem sliceBytes_byteOffset (t : List Char) {i j : Nat} (hij : i ≤ j) (hj : j ≤ t.length) :
    sliceBytes t (byteOffset t i) (byteOffset t j) = .ok ((t.drop i).take (j - i)) := by
  have hle := byteOffset_mono t hij
  simp only [sliceBytes, isCharBoundary_byteOffset, Bool.not_true, Bool.false_eq_true, if_false,
    if_neg (Nat.not_lt.2 hle), charsBefore_byteOffset t (Nat.le_trans hij hj),
    charsBefore_byteOffset t hj]

/-- The cut from the offset of character `i` to the end gives the characters from `i` on. -/
theorem sliceBytes_byteOffset_end (t : List Char) {i : Nat} (hi : i ≤ t.length) :
    sliceBytes t (byteOffset t i) (utf8 t).length = .ok (t.drop i) := by
  rw [← byteOffset_length, sliceBytes_byteOffset t hi (Nat.le_refl _),
    List.take_of_length_le (by simp)]

/-! ## The searches and the slice -/

/-- The slice by bytes is the slice by characters, and never panics. -/
theorem charSlice_eq (t : List Char) (a c : Nat) : charSlice t a c = .ok (slice t a c) := by
  unfold charSlice
  rw [slice_eq_clamped, ← byteOffset_min_length t a, ← byteOffset_min_length t c]
  have hmax : max (byteOffset t (min c t.length)) (byteOffset t (min a t.length)) =
      byteOffset t (max (min a t.length) (min c t.length)) := by
    rcases Nat.le_total (min a t.length) (min c t.length) with h | h
    · rw [Nat.max_eq_left (byteOffset_mono t h), Nat.max_eq_right h]
    · rw [Nat.max_eq_right (byteOffset_mono t h), Nat.max_eq_left h]
  dsimp only
  rw [hmax, sliceBytes_byteOffset t (Nat.le_max_left _ _) (by omega)]

theorem ok_bind {ε α β : Type} (a : α) (f : α → Except ε β) : (Except.ok a >>= f) = f a := rfl

/-- The search by bytes answers as the search by characters, and never panics. -/
theorem charFind_eq (t n : List Char) (s : Nat) : charFind t n s = .ok (find t n s) := by
  unfold charFind find
  split
  · rfl
  · rename_i hs
    have hs' : s ≤ t.length := by omega
    dsimp only
    have hshift : findIn n (t.drop s) s = (findIn n (t.drop s) 0).map (· + s) := by
      rw [← findIn_add, Nat.zero_add]
    rw [sliceBytes_byteOffset_end t hs', ok_bind, findIn_utf8, hshift]
    cases hf : findIn n (t.drop s) 0 with
    | none => rfl
    | some j =>
      have hj : j ≤ (t.drop s).length := by
        rw [findIn_eq_find?, Option.map_eq_some_iff] at hf
        obtain ⟨k, hk, rfl⟩ := hf
        have := List.mem_range.1 (List.mem_of_find?_eq_some hk)
        omega
      have hsj : s + j ≤ t.length := by
        rw [List.length_drop] at hj
        omega
      have hoff : byteOffset t s + (0 + (utf8 ((t.drop s).take j)).length) =
          byteOffset t (s + j) := by
        rw [byteOffset_add, Nat.zero_add]
      have hcut : sliceBytes t 0 (byteOffset t (s + j)) = .ok (t.take (s + j)) := by
        have := sliceBytes_byteOffset t (Nat.zero_le (s + j)) hsj
        rwa [show byteOffset t 0 = 0 by rw [byteOffset_eq]; rfl, List.drop_zero,
          Nat.sub_zero] at this
      dsimp only [Option.map_some]
      rw [hoff, hcut, ok_bind]
      show Except.ok (some (t.take (s + j)).length) = Except.ok (some (j + s))
      rw [List.length_take, Nat.min_eq_left hsj, Nat.add_comm]

/-- In `héllo` the first `l` starts at byte 3: it is character 2. -/
example : charFind ['h', 'é', 'l', 'l', 'o'] ['l'] 0 = .ok (some 2) := rfl

/-- A search with a test that never fails finds what the search with its answers finds. -/
theorem findM?_eq_ok {α ε : Type} {f : α → Except ε Bool} {p : α → Bool} :
    ∀ (xs : List α), (∀ x ∈ xs, f x = .ok (p x)) → xs.findM? f = .ok (xs.find? p)
  | [], _ => rfl
  | x :: xs, h => by
    have hrest := findM?_eq_ok xs fun y hy => h y (List.mem_cons_of_mem x hy)
    simp only [List.findM?, h x List.mem_cons_self, List.find?_cons]
    cases p x
    · exact hrest
    · rfl

/-- The starts of the characters, each with its position. -/
theorem zipIdx_charStarts (t : List Char) :
    (charStarts t).zipIdx = (List.range t.length).map fun i => (byteOffset t i, i) := by
  apply List.ext_getElem?
  intro i
  rw [List.getElem?_zipIdx, List.getElem?_map, getElem?_charStarts]
  split
  · rename_i hi
    rw [List.getElem?_range hi]
    simp only [Option.map_some, byteOffset_eq, Nat.zero_add]
  · rename_i hi
    rw [List.getElem?_eq_none (by simp; omega)]
    rfl

/-- The search backwards by bytes answers as the search by characters, and never panics. -/
theorem charRfind_eq (t n : List Char) (b : Nat) : charRfind t n b = .ok (rfind t n b) := by
  unfold charRfind rfind
  dsimp only
  rw [length_charStarts]
  split
  · rfl
  · -- each start tried cuts cleanly, and the test on its bytes is the test on its characters
    have htest : ∀ p ∈ ((List.range (min (b + 1) t.length)).map
        fun i => (byteOffset t i, i)).reverse,
        (do
          let rest ← sliceBytes t p.1 (utf8 t).length
          pure ((utf8 n).isPrefixOf (utf8 rest)) : Except Nat Bool) =
          .ok (n.isPrefixOf (t.drop p.2)) := by
      intro p hp
      obtain ⟨i, hi, rfl⟩ := List.mem_map.1 (List.mem_reverse.1 hp)
      have hit : i ≤ t.length := by
        have := List.mem_range.1 hi
        omega
      show (do
        let rest ← sliceBytes t (byteOffset t i) (utf8 t).length
        pure ((utf8 n).isPrefixOf (utf8 rest)) : Except Nat Bool) = _
      rw [sliceBytes_byteOffset_end t hit]
      show Except.ok ((utf8 n).isPrefixOf (utf8 (t.drop i))) = _
      rw [isPrefixOf_utf8]
    rw [zipIdx_charStarts, ← List.map_take, List.take_range, findM?_eq_ok _ htest,
      List.getLast?_filter, ← List.map_reverse, List.find?_map]
    show Except.ok (Option.map Prod.snd (Option.map _ _)) = _
    have hid : (Prod.snd ∘ fun i => (byteOffset t i, i)) = id := rfl
    rw [Option.map_map, hid, Option.map_id]
    rfl

/-- Searching and cutting a text by its bytes: the first occurrence of a needle at or after
character `s` is the least position from `s` on where it occurs, none when there is none (so
none when `s` lies past the end); the last occurrence at or before `b` is the greatest such
position up to `b`, none when there is none; the slice from `a` to `c` is the part of the text
between `min a |t|` and `max (min a |t|) (min c |t|)`; and no byte offset any of them cuts at
is a panic. -/
theorem searches_find_extreme_occurrences (t n : List Char) (s b a c : Nat) :
    (∀ i, charFind t n s = .ok (some i) ↔ IsLeast {j | s ≤ j ∧ OccursAt t n j} i) ∧
    (charFind t n s = .ok none ↔ ∀ j, s ≤ j → ¬ OccursAt t n j) ∧
    (t.length < s → charFind t n s = .ok none) ∧
    (∀ i, charRfind t n b = .ok (some i) ↔ IsGreatest {j | j ≤ b ∧ OccursAt t n j} i) ∧
    (charRfind t n b = .ok none ↔ ∀ j, j ≤ b → ¬ OccursAt t n j) ∧
    (∃ u, charSlice t a c = .ok u ∧
      t.take (min a t.length) ++ u ++ t.drop (max (min a t.length) (min c t.length)) = t ∧
      u.length = max (min a t.length) (min c t.length) - min a t.length) ∧
    (∀ k, charFind t n s ≠ .error k ∧ charRfind t n b ≠ .error k ∧
      charSlice t a c ≠ .error k) := by
  rw [charFind_eq, charRfind_eq, charSlice_eq]
  simp only [Except.ok.injEq]
  refine ⟨find_eq_some_iff t n s, find_eq_none_iff t n s, fun hs => ?_, rfind_eq_some_iff t n b,
    rfind_eq_none_iff t n b, ⟨slice t a c, rfl, slice_between t a c⟩,
    fun k => ⟨nofun, nofun, nofun⟩⟩
  exact (find_eq_none_iff t n s).2 fun j hj h => absurd (Nat.le_trans hj h.1) (by omega)

end Text

end ScriptLib
