import ScriptLib.Proofs.Intrinsic.Characters
import ScriptLib.Proofs.Heap.Frame

/-!
# Splitting a text and joining it back

`split` cuts a text at the occurrences of its delimiter's canonical text, and `join` puts
pieces together with its separator's canonical text between them. Given the same value as
delimiter and separator and no pattern options, `join` undoes `split`
(`join_split_restores`): the pieces of `Text.split` are the stretches between the
occurrences it cut at (`Text.intercalate_split`), and the empty delimiter, which splits into
characters, joins them with nothing between.

Each function reads the delimiter's text in its own heap, and `split` adds its list of pieces
to the heap in between. That list is new, so it changes the text of no value whose lists the
heap already holds (`Heap.Owns`): a value of the script is always such a value.
-/

namespace ScriptLib

namespace Text

/-- `splitGo` always gives a piece, the one in progress at the end of the text. -/
theorem splitGo_ne_nil (d0 : Char) (ds cur t : List Char) : splitGo d0 ds cur t ≠ [] := by
  fun_induction splitGo d0 ds cur t <;> simp_all

/-- The pieces found so far, joined by the delimiter, give back what was read, starting with
the piece in progress. -/
theorem intercalate_splitGo (d0 : Char) (ds cur t : List Char) :
    (d0 :: ds).intercalate (splitGo d0 ds cur t) = cur.reverse ++ t := by
  fun_induction splitGo d0 ds cur t with
  | case1 cur => simp
  | case2 cur c r hpre ih =>
    -- the delimiter stands at the front: the piece ends, and the text resumes after it
    have hfront : (d0 :: ds) ++ r.drop ds.length = c :: r := by
      simpa using List.prefix_iff_eq_append.1 (List.isPrefixOf_iff_prefix.1 hpre)
    rw [List.intercalate_cons_of_ne_nil (splitGo_ne_nil _ _ _ _), ih, List.reverse_nil,
      List.nil_append, List.append_assoc, hfront]
  | case3 cur c r _ ih => simp [ih]

/-- The pieces of a text joined by the delimiter give back the text. -/
theorem intercalate_split (t d : List Char) : d.intercalate (split t d) = t := by
  cases d with
  | nil => simp [split]
  | cons d0 ds =>
    show (d0 :: ds).intercalate (splitGo d0 ds [] t) = t
    simpa using intercalate_splitGo d0 ds [] t

/-- The characters of a text, each as a piece, joined by nothing. -/
theorem intercalate_singletons (cs : List Char) :
    ([] : List Char).intercalate (cs.map fun c => [c]) = cs := by
  induction cs with
  | nil => rfl
  | cons c cs ih => cases cs <;> simp_all [List.intercalate_cons_of_ne_nil]

end Text

namespace Intrinsic

/-- The pieces `split` cuts a text into at a literal delimiter: its characters for the empty
delimiter, else the stretches between the delimiter's occurrences. -/
def literalPieces (text delim : String) : List String :=
  if delim.isEmpty then text.toList.map String.singleton
  else (Text.split text.toList delim.toList).map String.ofList

/-- Joining the pieces by the delimiter gives back the text. -/
theorem intercalate_literalPieces (text delim : String) :
    delim.intercalate (literalPieces text delim) = text := by
  apply String.toList_inj.1
  unfold literalPieces
  split
  · rename_i hempty
    rw [String.isEmpty_iff.1 hempty, String.toList_intercalate, List.map_map]
    simpa [Function.comp_def] using Text.intercalate_singletons text.toList
  · rw [String.toList_intercalate, List.map_map]
    simpa using Text.intercalate_split text.toList delim.toList

end Intrinsic

namespace Heap

/-- Every list reachable from a value is one the heap has made: the value names no list the
heap could make next. -/
def Owns (h : Heap) (v : Value) : Prop :=
  ∀ l, h.Reaches v (.list l) → l < h.lists.size

/-- A text reaches only itself. -/
theorem owns_str (h : Heap) (t : String) : h.Owns (.str t) := by
  intro l hl
  rcases Relation.ReflTransGen.cases_head hl with heq | ⟨c, hc, _⟩
  · cases heq
  · simp [children] at hc

/-- A new list leaves every list the heap has made, and every map, as it was. -/
theorem agreeOn_newList {h : Heap} {v : Value} (hv : h.Owns v) (xs : Array Value) :
    h.AgreeOn (h.newList xs).1 v := by
  intro u hu
  cases u with
  | list l =>
    have hl := hv l hu
    simp [SameAt, items, newList, Array.getElem?_push, Nat.ne_of_lt hl]
  | map m => rfl
  | _ => trivial

end Heap

namespace Intrinsic

open Act

/-- `split` without pattern options makes a new list of the literal pieces of its text. -/
theorem run_split_literal (s : String) {d : Value} (hd : d ≠ .nil) (w : World) :
    (split [.str s, d]).run.run w =
      let xs := ((literalPieces s (w.heap.display d)).map Value.str).toArray
      (.ok (.list (w.heap.newList xs).2), { w with heap := (w.heap.newList xs).1 }) := by
  unfold literalPieces
  by_cases hE : (w.heap.display d).isEmpty = true
  · simp only [split, argAt, List.getD_cons_zero, List.getD_cons_succ, List.getD_nil,
      regexOptions, run_bind, run_pure, run_display, hE, if_true]
    rfl
  · simp only [split, argAt, List.getD_cons_zero, List.getD_cons_succ, List.getD_nil,
      regexOptions, run_bind, run_pure, run_display, hE, if_false, Bool.false_eq_true]
    rfl

/-- `join` of a list of texts puts the separator's canonical text between them, once that text
is within the limit. -/
theorem run_join_texts {l : Handle} {ps : List String} {d : Value} (hd : d ≠ .nil) (w : World)
    (hl : w.heap.items l = (ps.map Value.str).toArray)
    (hlen : (w.heap.display d).length ≤ w.limits.maxSeparator) :
    (join [.list l, d]).run.run w = (.ok (.str ((w.heap.display d).intercalate ps)), w) := by
  have hparts : (ps.map Value.str).map w.heap.display = ps := by
    simp [Function.comp_def, Heap.display_str]
  have hlimits : ∀ f : Limits → Act Value, (limits >>= f).run.run w = (f w.limits).run.run w :=
    fun _ => rfl
  cases d with
  | nil => exact absurd rfl hd
  | _ =>
    simp only [join, argAt, List.getD_cons_zero, List.getD_cons_succ, run_bind, run_display,
      hlimits, gt_iff_lt, Nat.not_lt.2 hlen, if_false, run_heap, run_pure, hl,
      List.toList_toArray, hparts]

/-- Splitting a text at a delimiter without pattern options and joining the pieces with the
same value gives back the text, for every delimiter that is not nil and whose canonical text
is within the separator limit, the empty one included. -/
theorem join_split_restores (s : String) (d : Value) (w : World) (hd : d ≠ .nil)
    (hown : w.heap.Owns d) (hlen : (w.heap.display d).length ≤ w.limits.maxSeparator) :
    ∃ w', (split [.str s, d] >>= fun parts => join [parts, d]).run.run w = (.ok (.str s), w') := by
  have hsame : (w.heap.newList ((literalPieces s (w.heap.display d)).map Value.str).toArray).1.display d =
      w.heap.display d :=
    (Heap.display_congr (Heap.agreeOn_newList hown _)).symm
  refine ⟨{ w with heap :=
    (w.heap.newList ((literalPieces s (w.heap.display d)).map Value.str).toArray).1 }, ?_⟩
  rw [run_bind_ok (run_split_literal s hd w)]
  rw [run_join_texts hd _ (Heap.items_newList _ _) (by rw [hsame]; exact hlen), hsame,
    intercalate_literalPieces]

/-- Cutting `a, b` at `", "` and joining the pieces back. -/
theorem comma_split_joins_back :
    (.str ", " : Value) ≠ .nil ∧ ({} : World).heap.Owns (.str ", ") ∧
      (({} : World).heap.display (.str ", ")).length ≤ ({} : World).limits.maxSeparator ∧
      ∃ w', (split [.str "a, b", .str ", "] >>= fun parts => join [parts, .str ", "]).run.run {} =
        (.ok (.str "a, b"), w') :=
  ⟨by simp, Heap.owns_str _ _, by decide,
    join_split_restores "a, b" (.str ", ") {} (by simp) (Heap.owns_str _ _) (by decide)⟩

end Intrinsic

end ScriptLib
