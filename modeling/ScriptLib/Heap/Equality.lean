import ScriptLib.Heap.Basic

/-!
# Deep equality

Two lists are equal when they are the same list, or have the same length and equal
elements in order; two maps when they are the same map, or have the same size and every
entry of the first finds a value under an equal key of the second, and that value is
equal to its own. Two nils are equal; two numbers when they are equal as doubles or both
NaN; two texts when they are the same text. Any other pair is equal when the canonical
texts of the two values agree, so `1` equals `"1"`.

Comparison keeps the pairs of containers it is inside, innermost first. Meeting an open
pair again counts as equal, so two cyclic structures of the same shape are equal; with
256 pairs open, a further pair of containers is unequal. The open pairs are shared by
the key lookups made while two maps are compared.

The recursion runs on `room`, the number of pairs that may still be opened: each step
into a pair of containers spends one.
-/

namespace ScriptLib

/-- A pair of containers under comparison. -/
inductive OpenPair where
  | lists (a b : Handle)
  | maps (a b : Handle)
  deriving DecidableEq, Repr

namespace Heap

/-- Most pairs of containers open at once. -/
def equalDepth : Nat := 256

/-- Deep equality with `room` pairs still to open and `opened` open. -/
def equalIn (h : Heap) : Nat → List OpenPair → Value → Value → Bool
  | room, opened, .list a, .list b =>
    if a = b then true
    else
      let xs := (h.items a).toList
      let ys := (h.items b).toList
      if xs.length ≠ ys.length then false
      else if opened.contains (.lists a b) then true
      else match room with
        | 0 => false
        | r + 1 => (xs.zip ys).all fun (p, q) => equalIn h r (.lists a b :: opened) p q
  | room, opened, .map a, .map b =>
    if a = b then true
    else
      let ta := h.table a
      let tb := h.table b
      if ta.size ≠ tb.size then false
      else if opened.contains (.maps a b) then true
      else match room with
        | 0 => false
        | r + 1 =>
          ta.entries.all fun e =>
            match tb.get? (equalIn h r (.maps a b :: opened)) e.key with
            | some w => equalIn h r (.maps a b :: opened) e.val w
            | none => false
  | _, _, .nil, .nil => true
  | _, _, .num x, .num y => Number.eq x y || (Number.isNaN x && Number.isNaN y)
  | _, _, .str x, .str y => x == y
  | _, _, a, b => h.display a == h.display b

/-- Deep equality of two values, no pair open. -/
def equal (h : Heap) (a b : Value) : Bool :=
  equalIn h equalDepth [] a b

/-- Key equality for the tables of this heap. -/
def keyEq (h : Heap) : Value → Value → Bool :=
  h.equal

end Heap

end ScriptLib
