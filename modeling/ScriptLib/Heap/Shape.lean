import ScriptLib.Heap.Basic

/-!
# Values as trees

A value written out in full: lists and maps with their contents, recursively. A container
that is one of its own ancestors is written as a back reference, the number of levels up
to that ancestor (1 for the innermost enclosing container); a container that is only
shared is written out in full each time. Each level of the walk adds a new container to
the ancestors, so no walk is deeper than the number of containers of the heap.
-/

namespace ScriptLib

/-- A container of the heap, by kind and handle. -/
inductive Container where
  | list (l : Handle)
  | map (m : Handle)
  deriving DecidableEq, Repr

/-- A value written out as a tree. -/
inductive Shape where
  | nil
  | num (x : Double)
  | str (s : String)
  | bool (b : Bool)
  | list (items : List Shape)
  /-- entries in insertion order -/
  | map (entries : List (Shape × Shape))
  /-- the container so many levels up -/
  | cycle (k : Nat)
  deriving Inhabited, Repr

namespace Heap

/-- The tree of a value below the given ancestors, innermost first. -/
def shapeAt (h : Heap) : Nat → List Container → Value → Shape
  | 0, _, _ => .nil
  | fuel + 1, above, v =>
    match v with
    | .nil => .nil
    | .num x => .num x
    | .str s => .str s
    | .bool b => .bool b
    | .list l =>
      match above.findIdx? (· == .list l) with
      | some i => .cycle (i + 1)
      | none => .list ((h.items l).toList.map (h.shapeAt fuel (.list l :: above)))
    | .map m =>
      match above.findIdx? (· == .map m) with
      | some i => .cycle (i + 1)
      | none =>
        .map ((h.table m).pairs.map fun kv =>
          (h.shapeAt fuel (.map m :: above) kv.1, h.shapeAt fuel (.map m :: above) kv.2))

/-- The tree of a value. -/
def shape (h : Heap) (v : Value) : Shape :=
  h.shapeAt (h.lists.size + h.maps.size + 1) [] v

end Heap

end ScriptLib
