import ScriptLib.Table.Basic
import ScriptLib.Number.Word

/-!
# The heap of shared containers

A heap holds the contents of every list and every map, each under its handle. Lists and
maps have handles of their own, so `Value.list 0` and `Value.map 0` are different
containers. A handle that names nothing reads as an empty container.

This module also holds what a value is once the heap is known: its truthiness, its
number, and its text. The text of a container lists its elements in order, texts inside
a container in double quotes (not escaped), a map as `key: value` pairs in braces;
below 16 levels of nesting a container is written `[...]` or `{...}`.
-/

namespace ScriptLib

/-- The contents of every list and map. -/
structure Heap where
  lists : Array (Array Value) := #[]
  maps : Array Table := #[]
  deriving Inhabited

namespace Heap

/-- The elements of a list. -/
def items (h : Heap) (l : Handle) : Array Value :=
  h.lists[l]?.getD #[]

/-- The table of a map. -/
def table (h : Heap) (m : Handle) : Table :=
  h.maps[m]?.getD {}

/-- The heap with a list's elements replaced. -/
def setItems (h : Heap) (l : Handle) (xs : Array Value) : Heap :=
  { h with lists := h.lists.set! l xs }

/-- The heap with a map's table replaced. -/
def setTable (h : Heap) (m : Handle) (t : Table) : Heap :=
  { h with maps := h.maps.set! m t }

/-- A new list with the given elements. -/
def newList (h : Heap) (xs : Array Value) : Heap × Handle :=
  ({ h with lists := h.lists.push xs }, h.lists.size)

/-- A new map with the given table. -/
def newMap (h : Heap) (t : Table) : Heap × Handle :=
  ({ h with maps := h.maps.push t }, h.maps.size)

/-- Whether a value counts as true: nil, false, zero, NaN, the empty text and empty
containers do not. -/
def truthy (h : Heap) : Value → Bool
  | .nil => false
  | .num x => !Number.eq x (Number.ofInt 0) && !Number.isNaN x
  | .str s => !s.isEmpty
  | .bool b => b
  | .list l => !(h.items l).isEmpty
  | .map m => (h.table m).size != 0

/-- Depth of nesting at which containers are no longer written out. -/
def textDepth : Nat := 16

/-- The text of a value with `room` more levels of containers to write out; `quoted`
puts a text in double quotes. -/
def render (h : Heap) : Nat → Bool → Value → String
  | _, true, .str s => "\"" ++ s ++ "\""
  | 0, _, .list _ => "[...]"
  | 0, _, .map _ => "\x7b...\x7d"
  | room + 1, _, .list l =>
    "[" ++ ", ".intercalate ((h.items l).toList.map (render h room true)) ++ "]"
  | room + 1, _, .map m =>
    "\x7b" ++ ", ".intercalate ((h.table m).entries.map fun e =>
      render h room true e.key ++ ": " ++ render h room true e.val) ++ "\x7d"
  | _, _, v => v.scalarText

/-- The canonical text of a value: a text as it is, containers written out. -/
def display (h : Heap) (v : Value) : String :=
  render h textDepth false v

/-- The debugging text of a value: like the canonical one, with a text in quotes. -/
def debug (h : Heap) (v : Value) : String :=
  render h textDepth true v

end Heap

namespace Value

/-- The number of a value: a number itself, a boolean as 1 or 0, a text read as a number
(NaN when it is none); nil and containers have none. -/
def toNumber? : Value → Option Double
  | .num x => some x
  | .bool b => some (Number.ofInt (if b then 1 else 0))
  | .str s => some (Number.ofText s)
  | _ => none

/-- The 64-bit integer of a value's number, truncated and saturated, NaN giving 0. -/
def toInt? (v : Value) : Option Int :=
  v.toNumber?.map Number.toInt64

end Value

end ScriptLib
