import ScriptLib.Proofs.Intrinsic.Offsets
import ScriptLib.Proofs.Heap.Slot
import ScriptLib.Proofs.Text.Bytes

/-!
# A text is the list of its characters

Script texts are indexed by character: a text is cut and searched by its bytes, but at the
offsets of characters and with answers counted in characters (`Text.charSlice_eq`,
`Text.charFind_eq`, `Text.charRfind_eq`). So the functions that read positions answer on a
text as they answer on the list of its one-character texts, the list that `values` makes
of it (`text_ops_match_char_list`): `hasIndex`, `len` and `indexes` give the same answer;
`slice` and `insert` give a text where the list gives a list, and the list holds the
characters of that text; `insert` fails on both alike; and `indexOf` and `lastIndexOf` find
a needle of one character at the same position. The one exception is an offset at the
largest 64-bit word: `lastIndexOf` on a list steps past it and wraps around, on a text it
does not step.

The searches are the one place where the two sides are built differently. On a list an
element is compared with the needle by deep equality, which compares a one-character text
with the canonical text of the needle. On a text the needle's canonical text is looked for
as a run of characters. A run of one character is found where that character stands:
`Text.find` is a first-match scan from the start (`Text.find_single`), and `Text.rfind`,
which collects every match up to its bound and takes the last, is a scan back from the
bound (`Text.rfind_single`).
-/

namespace ScriptLib

/-- The one-character texts of a text, in order. -/
def charValues (s : String) : List Value :=
  s.toList.map fun c => .str (String.singleton c)

@[simp] theorem length_charValues (s : String) : (charValues s).length = s.length := by
  simp [charValues, String.length_toList]

/-- A text is deeply equal to a value exactly when it is that value's canonical text. -/
theorem Heap.equal_str_left (h : Heap) (t : String) (v : Value) :
    h.equal (.str t) v = (t == h.display v) := by
  unfold Heap.equal
  rw [Heap.equalIn.eq_def]
  cases v <;> simp [Heap.display_str]

theorem Heap.equal_char {h : Heap} {v : Value} {d : Char}
    (hv : h.display v = String.singleton d) (c : Char) :
    h.equal (.str (String.singleton c)) v = (c == d) := by
  rw [Heap.equal_str_left, hv]
  by_cases hcd : c = d
  · simp [hcd]
  · have hne : String.singleton c ≠ String.singleton d := fun he =>
      hcd (by simpa using congrArg String.toList he)
    rw [beq_false_of_ne hne, beq_false_of_ne hcd]

/-- The text of a value whose canonical text has one character is that character. -/
theorem eq_singleton_of_length_one {t : String} (ht : t.length = 1) :
    ∃ d, t = String.singleton d := by
  obtain ⟨d, hd⟩ : ∃ d, t.toList = [d] := by
    rw [← String.length_toList] at ht
    match hts : t.toList, ht with
    | [d], _ => exact ⟨d, rfl⟩
  exact ⟨d, String.toList_inj.1 (by simp [hd])⟩

/-- Inserting at a position within a list puts the element between the two parts. -/
theorem insertIdx_eq_take_drop {α : Type} (a : α) :
    ∀ {l : List α} {k : Nat}, k ≤ l.length → l.insertIdx k a = l.take k ++ a :: l.drop k
  | _, 0, _ => by simp
  | x :: xs, k + 1, hk => by
    rw [List.insertIdx_succ_cons, insertIdx_eq_take_drop a (Nat.le_of_succ_le_succ hk)]
    simp

theorem charValues_insert (s : String) {k : Nat} (hk : k ≤ s.length) (c : Char) :
    (charValues s).insertIdx k (.str (String.singleton c)) =
      charValues (String.ofList (s.toList.take k) ++ String.singleton c ++
        String.ofList (s.toList.drop k)) := by
  rw [insertIdx_eq_take_drop _ (by simpa using hk)]
  simp [charValues]

namespace Text

theorem findIn_single (d : Char) : ∀ (rest : List Char) (i : Nat),
    findIn [d] rest i = (rest.findIdx? (· == d)).map (· + i)
  | [], i => by simp [findIn]
  | x :: r, i => by
    rw [findIn]
    by_cases hx : x = d
    · simp [hx, List.findIdx?_cons]
    · have hpre : ¬ [d].isPrefixOf (x :: r) = true := by simp [List.isPrefixOf, Ne.symm hx]
      simp [hpre, findIn_single d r (i + 1), List.findIdx?_cons, hx, Option.map_map,
        Function.comp_def, Nat.add_assoc, Nat.add_comm 1 i]

/-- A run of one character is first found where that character first stands. -/
theorem find_single {t : List Char} {start : Nat} (h : start ≤ t.length) (d : Char) :
    find t [d] start = ((t.drop start).findIdx? (· == d)).map (· + start) := by
  rw [find, if_neg (Nat.not_lt.2 h), findIn_single]

theorem isPrefixOf_single_drop {t : List Char} {i : Nat} (hi : i < t.length) (d : Char) :
    [d].isPrefixOf (t.drop i) = (t[i] == d) := by
  rw [List.drop_eq_getElem_cons hi]
  simp [List.isPrefixOf, Bool.beq_comm]

/-- Collecting the matches of one character before `n` and taking the last is the scan
back from `n`. -/
theorem getLast_filter_single {t : List Char} (d : Char) :
    ∀ {n : Nat}, n ≤ t.length →
      ((List.range n).filter fun i => [d].isPrefixOf (t.drop i)).getLast? =
        ((t.take n).reverse.findIdx? (· == d)).map fun i => n - 1 - i
  | 0, _ => by simp
  | n + 1, hn => by
    have hlt : n < t.length := hn
    rw [List.range_succ, List.filter_append, List.getLast?_append, List.take_add_one,
      List.getElem?_eq_getElem hlt, getLast_filter_single d (Nat.le_of_lt hlt)]
    simp only [List.filter_cons, List.filter_nil, isPrefixOf_single_drop hlt,
      List.reverse_append, List.reverse_cons, List.reverse_nil, List.nil_append,
      List.singleton_append, List.findIdx?_cons, Option.toList_some]
    by_cases hd : (t[n] == d) = true
    · simp [hd]
    · rw [if_neg hd, if_neg hd, List.getLast?_nil, Option.none_or, Option.map_map]
      congr 1
      funext i
      simp only [Function.comp_apply]
      omega

/-- A run of one character is last found, at or before `b`, where that character last
stands. -/
theorem rfind_single (t : List Char) (d : Char) (b : Nat) :
    rfind t [d] b = ((t.take (min (b + 1) t.length)).reverse.findIdx? (· == d)).map
      fun i => min (b + 1) t.length - 1 - i := by
  rw [rfind, if_neg (by simp), getLast_filter_single d (Nat.min_le_right _ _)]

end Text

namespace Intrinsic

open Act

/-- Writes the one-character texts of a value's canonical text into a list, and answers
the list. -/
def fillChars (l : Handle) (r : Value) : Act Value := do
  modifyHeap fun h => h.setItems l (charValues (h.display r)).toArray
  return .list l

/-! ## The searches on the two sides -/

section Search

variable {h : Heap} {needle : Value} {d : Char}

theorem firstEqual_chars (hv : h.display needle = String.singleton d) (s : String) {start : Nat}
    (hs : start ≤ s.length) :
    firstEqual h needle (charValues s) start = Text.find s.toList [d] start := by
  rw [Text.find_single (by simpa [String.length_toList] using hs), firstEqual, charValues,
    ← List.map_drop, List.findIdx?_map]
  simp [Function.comp_def, Heap.equal_char hv]

theorem lastEqual_chars (hv : h.display needle = String.singleton d) (s : String) (stop b : Nat)
    (hstop : stop = min (b + 1) s.length) :
    lastEqual h needle (charValues s) stop = Text.rfind s.toList [d] b := by
  rw [Text.rfind_single, lastEqual, charValues, ← List.map_take, ← List.map_reverse,
    List.findIdx?_map]
  simp [Function.comp_def, Heap.equal_char hv, hstop, String.length_toList]

end Search

/-- A needle whose canonical text has one character is not nil, whose text is `null`. -/
theorem isNil_of_display_length {h : Heap} {v : Value} (hv : (h.display v).length = 1) :
    v.isNil = false := by
  cases v with
  | nil =>
    simp only [Heap.display, Heap.textDepth, Heap.render, Value.scalarText] at hv
    exact absurd hv (by decide)
  | _ => rfl

/-! ## Each function on a text and on its list -/

section Functions

variable {s : String} {l : Handle} {w : World}

theorem size_of_chars (hl : (w.heap.items l).toList = charValues s) :
    (w.heap.items l).size = s.length := by
  rw [← Array.length_toList, hl, length_charValues]

theorem hasIndex_chars (hl : (w.heap.items l).toList = charValues s) (args : List Value) :
    (hasIndex (.list l :: args)).run.run w = (hasIndex (.str s :: args)).run.run w := by
  unfold hasIndex
  rw [run_heap_bind, run_heap_bind]
  simp only [argAt, List.getD_cons_zero, List.getD_cons_succ]
  generalize args.getD 0 Value.nil = index
  cases index <;> simp [size_of_chars hl]

theorem len_chars (hl : (w.heap.items l).toList = charValues s) (args : List Value) :
    (len (.list l :: args)).run.run w = (len (.str s :: args)).run.run w := by
  unfold len
  rw [run_heap_bind, run_heap_bind]
  simp only [argAt, List.getD_cons_zero, size_of_chars hl]

theorem indexes_chars (hl : (w.heap.items l).toList = charValues s) (args : List Value) :
    (indexes (.list l :: args)).run.run w = (indexes (.str s :: args)).run.run w := by
  unfold indexes
  rw [run_heap_bind, run_heap_bind]
  simp only [argAt, List.getD_cons_zero, size_of_chars hl]

theorem indexOf_chars (hl : (w.heap.items l).toList = charValues s) (args : List Value)
    (hv : (w.heap.display (argAt args 0)).length = 1) :
    (indexOf (.list l :: args)).run.run w = (indexOf (.str s :: args)).run.run w := by
  obtain ⟨d, hd⟩ := eq_singleton_of_length_one hv
  unfold indexOf
  rw [run_heap_bind, run_heap_bind]
  simp only [argAt, List.getD_cons_zero, List.getD_cons_succ] at hd hv ⊢
  rw [hl, isNil_of_display_length hv, length_charValues, String.length_toList, hd,
    firstEqual_chars hd s (startAfter_le _ _)]
  simp only [Bool.false_eq_true, ↓reduceIte, String.toList_singleton, Text.charFind_eq, ofCut_ok,
    pure_bind]

theorem lastIndexOf_chars (hl : (w.heap.items l).toList = charValues s) (args : List Value)
    (hv : (w.heap.display (argAt args 0)).length = 1)
    (hb : ∀ b, offsetOf (argAt args 1) = some b → b < 2 ^ 63 - 1) :
    (lastIndexOf (.list l :: args)).run.run w = (lastIndexOf (.str s :: args)).run.run w := by
  obtain ⟨d, hd⟩ := eq_singleton_of_length_one hv
  unfold lastIndexOf
  rw [run_heap_bind, run_heap_bind]
  simp only [argAt, List.getD_cons_zero, List.getD_cons_succ] at hd hv hb ⊢
  rw [hl, isNil_of_display_length hv, length_charValues, String.length_toList, hd,
    endAfter_eq hb]
  simp only [Bool.false_eq_true, ↓reduceIte, String.toList_singleton, Text.charRfind_eq,
    ofCut_ok, pure_bind]
  -- the list stops just after the offset, the text at the offset: the same last position
  cases lastStart (args.getD 1 Value.nil) s.length with
  | none => rfl
  | some b => simp only [Option.map_some, lastEqual_chars hd s _ b rfl]

theorem slice_chars (hl : (w.heap.items l).toList = charValues s) (args : List Value) :
    (slice (.list l :: args)).run.run w =
      (slice (.str s :: args) >>= fun r => values [r]).run.run w := by
  unfold slice
  simp only [run_bind, run_heap, argAt, List.getD_cons_zero, List.getD_cons_succ, hl,
    length_charValues, String.length_toList, Text.charSlice_eq, ofCut_ok]
  cases offsetOf (args.getD 0 Value.nil) with
  | none => rfl
  | some start =>
    simp only [values, run_bind, run_heap, run_pure, argAt, List.getD_cons_zero, Text.slice,
      charValues, String.toList_ofList]
    congr 3
    simp

theorem insert_chars (hl : (w.heap.items l).toList = charValues s) (args : List Value) {c : Char}
    (hv : argAt args 1 = .str (String.singleton c)) :
    (insert (.list l :: args)).run.run w = (insert (.str s :: args) >>= fillChars l).run.run w := by
  unfold insert
  simp only [argAt, List.getD_cons_zero, List.getD_cons_succ] at hv ⊢
  simp only [hv, intArg_cons, run_bind]
  rcases hidx : (intArg args 0).run.run w with ⟨_ | index, w₁⟩
  · rfl
  · have hw₁ : w₁ = w := (check_intArg args 0).keeps w _ w₁ hidx
    subst hw₁
    simp only [run_heap, size_of_chars hl, String.length_toList]
    rcases hcheck : Index.checkRange (Number.ofInt (Index.resolve index s.length))
      (Number.ofInt 0) (Number.ofInt s.length) "index" with e | u
    · simp
    · simp only [run_ofResult, run_modifyHeap, run_display, run_pure, fillChars, run_bind,
        Heap.display_str, hl, charValues_insert s (clampIndex_le _ _) c, Text.charSlice_eq,
        ofCut_ok, Text.slice_zero]
      rw [Text.slice_of_length_le _ _ (Nat.le_of_eq (String.length_toList (s := s)))]

end Functions

theorem Heap.items_newList (h : Heap) (xs : Array Value) :
    (h.newList xs).1.items (h.newList xs).2 = xs := by
  simp [Heap.newList, Heap.items]

/-- `values` of a text makes a fresh list of its one-character texts. -/
theorem run_values_str (s : String) (w : World) :
    (values [.str s]).run.run w =
      (.ok (.list (w.heap.newList (charValues s).toArray).2),
        { w with heap := (w.heap.newList (charValues s).toArray).1 }) := rfl

/-- On a text and on the list of its one-character texts that `values` makes, `hasIndex`,
`len` and `indexes` answer alike, at any index; `slice`, at any bounds, and `insert` of one
character, at any index, fail alike and answer with a text whose characters the list's
answer holds; `indexOf` and `lastIndexOf` find a needle whose canonical text is one
character at the same position, `indexOf` from any offset and `lastIndexOf` from any offset
below the largest 64-bit word. -/
theorem text_ops_match_char_list (s : String) (w : World) :
    ∃ L w₁, (values [.str s]).run.run w = (.ok (.list L), w₁) ∧ ∀ args : List Value,
      (hasIndex (.list L :: args)).run.run w₁ = (hasIndex (.str s :: args)).run.run w₁ ∧
      (len (.list L :: args)).run.run w₁ = (len (.str s :: args)).run.run w₁ ∧
      (indexes (.list L :: args)).run.run w₁ = (indexes (.str s :: args)).run.run w₁ ∧
      (slice (.list L :: args)).run.run w₁ =
        (slice (.str s :: args) >>= fun r => values [r]).run.run w₁ ∧
      (∀ c : Char, argAt args 1 = .str (String.singleton c) →
        (insert (.list L :: args)).run.run w₁ =
          (insert (.str s :: args) >>= fillChars L).run.run w₁) ∧
      ((w₁.heap.display (argAt args 0)).length = 1 →
        (indexOf (.list L :: args)).run.run w₁ = (indexOf (.str s :: args)).run.run w₁ ∧
        ((∀ b, offsetOf (argAt args 1) = some b → b < 2 ^ 63 - 1) →
          (lastIndexOf (.list L :: args)).run.run w₁ =
            (lastIndexOf (.str s :: args)).run.run w₁)) := by
  have hrun := run_values_str s w
  have hitems := Heap.items_newList w.heap (charValues s).toArray
  generalize w.heap.newList (charValues s).toArray = fresh at hrun hitems
  obtain ⟨h₁, L⟩ := fresh
  have hl : (({ w with heap := h₁ } : World).heap.items L).toList = charValues s := by
    rw [hitems, List.toList_toArray]
  generalize ({ w with heap := h₁ } : World) = w₁ at hrun hl
  refine ⟨L, w₁, hrun, fun args => ?_⟩
  exact ⟨hasIndex_chars hl args, len_chars hl args, indexes_chars hl args, slice_chars hl args,
    fun _ hv => insert_chars hl args hv,
    fun hv => ⟨indexOf_chars hl args hv, lastIndexOf_chars hl args hv⟩⟩

/-- Inserting `x` at 1 into `héy` and into its list agree, and so do searches for `y`. -/
theorem insert_and_search_agree_on_hey :
    ∃ L w₁, (values [.str "héy"]).run.run {} = (.ok (.list L), w₁) ∧
      (insert [.list L, natValue 1, .str "x"]).run.run w₁ =
        (insert [.str "héy", natValue 1, .str "x"] >>= fillChars L).run.run w₁ ∧
      (indexOf [.list L, .str "y"]).run.run w₁ = (indexOf [.str "héy", .str "y"]).run.run w₁ := by
  obtain ⟨L, w₁, hrun, hall⟩ := text_ops_match_char_list "héy" {}
  refine ⟨L, w₁, hrun, (hall [natValue 1, .str "x"]).2.2.2.2.1 'x' rfl,
    ((hall [.str "y"]).2.2.2.2.2 ?_).1⟩
  simp only [argAt, List.getD_cons_zero, Heap.display_str]
  decide

end Intrinsic

end ScriptLib
