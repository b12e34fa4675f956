import ScriptLib.Intrinsic.Basic
import ScriptLib.Random.Shuffle

/-!
# Sorting and shuffling lists

`sort` orders a list in place by a key taken from each element: the element itself, or,
given a selector, the value under that key of a map element or at that index of a list
element. Keys rank missing (no key, or nil) below numbers (booleans count as 1 and 0)
below texts below other values. Numbers compare by the total order of doubles (`-NaN`
first, `-0` before `0`, `NaN` last); texts and other values (by their canonical text)
compare by their lowercase, and on a tie the lowercase text goes first. The sort is
stable; descending order reverses the comparison, so ties keep their order there too.

`shuffle` permutes a list, or the values of a map in entry order, by the Fisher–Yates
shuffle over the unseeded source.
-/

namespace ScriptLib

namespace Intrinsic

open Act

/-- The key by which an element sorts. -/
inductive SortKey where
  | missing
  | number (x : Double)
  /-- a text, with its lowercase -/
  | text (s lowered : String)
  /-- another value, by its canonical text and that text's lowercase -/
  | other (s lowered : String)

namespace SortKey

/-- The rank of a kind of key. -/
def rank : SortKey → Nat
  | .missing => 0
  | .number _ => 1
  | .text .. => 2
  | .other .. => 3

/-- The place of a double in the total order of doubles. -/
def totalPlace (x : Double) : Int :=
  let b := x.bits.toNat
  if b < Binary.signPlace then b else -((b - Binary.signPlace : Nat) : Int) - 1

/-- Texts by their lowercase; on a tie the greater text, by code points, goes first. -/
def compareFolded (a al b bl : String) : Ordering :=
  match compare al bl with
  | .eq => compare b a
  | o => o

/-- The order of keys. -/
def compare : SortKey → SortKey → Ordering
  | .number x, .number y => Ord.compare (totalPlace x) (totalPlace y)
  | .text a al, .text b bl => compareFolded a al b bl
  | .other a al, .other b bl => compareFolded a al b bl
  | k, k' => Ord.compare k.rank k'.rank

/-- The key of an element under a selector. -/
def ofElement (h : Heap) (item selector : Value) : SortKey :=
  let selected : Option Value := match item, selector with
    | _, .nil => some item
    | .map m, key => (h.table m).get? h.equal key
    | .list l, key =>
      match key.toInt? with
      | some i => (Index.normalize i (h.items l).size).bind fun k => (h.items l)[k]?
      | none => none
    | _, _ => none
  match selected with
  | none => .missing
  | some .nil => .missing
  | some (.num x) => .number x
  | some (.bool b) => .number (Number.ofInt (if b then 1 else 0))
  | some (.str s) => .text s (Text.lower s)
  | some v => let t := h.display v; .other t (Text.lower t)

end SortKey

/-- Sorts a list in place by the keys of its elements. -/
def sort (args : List Value) : Act Value := do
  match argAt args 0 with
  | .list l =>
    let h ← heap
    let selector := argAt args 1
    let ascending := h.truthy (argAt args 2)
    let keyed := (h.items l).toList.map fun x => (SortKey.ofElement h x selector, x)
    let le (a b : SortKey × Value) : Bool :=
      if ascending then a.1.compare b.1 != .gt else b.1.compare a.1 != .gt
    let sorted := keyed.mergeSort le
    modifyHeap fun h => h.setItems l (sorted.map Prod.snd).toArray
    return .list l
  | _ => return .nil

/-- Shuffles a list, or the values of a map, with the unseeded source. -/
def shuffle (args : List Value) : Act Value := do
  let limit := (← limits).maxShuffle
  let h ← heap
  let draw := fun (g : Random.ChaCha) (i : Nat) => g.nextIndex i
  match argAt args 0 with
  | .list l =>
    let xs := h.items l
    if xs.size > limit then fail (.limitExceeded (.shuffleLength limit xs.size))
    let w ← get
    let (ys, g) := Random.shuffle draw xs w.source
    set { w with source := g, heap := w.heap.setItems l ys }
  | .map m =>
    let t := h.table m
    if t.size > limit then fail (.limitExceeded (.shuffleLength limit t.size))
    let w ← get
    let (vs, g) := Random.shuffle draw t.values.toArray w.source
    set { w with source := g, heap := w.heap.setTable m (t.setValues vs.toList) }
  | _ => pure ()
  return .nil

end Intrinsic

end ScriptLib
