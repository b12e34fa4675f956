import ScriptLib.Heap.Equality
import ScriptLib.Heap.Hash
import ScriptLib.Random.ChaCha
import ScriptLib.Index

/-!
# The world of a script

Everything an intrinsic call can read or change: the heap of lists and maps, the seeded
streams, the unseeded source, the printed lines, and the limits that bound the cost of a
call. A call is an action on the world that may fail; a failed call keeps the world as
it had changed it up to the failure, so a law about failures can be stated at all.
-/

namespace ScriptLib

/-- Ceilings on the cost of one call, and the bounds of `wait`. -/
structure Limits where
  maxShuffle : Nat := 10000
  maxSeparator : Nat := 128
  /-- Shortest `wait`, in seconds. -/
  waitMin : Double := Number.ofDecimal false 1 (-2)
  /-- Longest `wait`, in seconds. -/
  waitMax : Double := Number.ofInt 300
  /-- Depth of `hash` when none is given. -/
  hashDepth : Int := 16
  maxRange : Nat := 16777216
  deriving Inhabited

/-- The state that intrinsic calls share. -/
structure World where
  heap : Heap := {}
  seeds : Random.Seeds := {}
  source : Random.ChaCha := Random.ChaCha.ofSeed 0
  output : Array String := #[]
  limits : Limits := {}
  /-- Set when the host asked the script to stop; a pending `wait` then ends at once. -/
  exitRequested : Bool := false
  deriving Inhabited

/-- An action on the world that may fail. -/
abbrev Act := ExceptT Error (StateM World)

namespace Act

/-- Fails with a cause and no frame. -/
def fail {α : Type} (c : Cause) : Act α :=
  throw ⟨c, []⟩

/-- The heap. -/
def heap : Act Heap := do
  return (← get).heap

/-- Changes the heap. -/
def modifyHeap (f : Heap → Heap) : Act Unit :=
  modify fun w => { w with heap := f w.heap }

/-- The limits. -/
def limits : Act Limits := do
  return (← get).limits

/-- Lifts a result of the value layer. -/
def ofResult {α : Type} : Except Error α → Act α
  | .ok a => pure a
  | .error e => throw e

/-- A new list holding the given values. -/
def newList (xs : List Value) : Act Value := do
  let w ← get
  let (h, l) := w.heap.newList xs.toArray
  set { w with heap := h }
  return .list l

/-- The canonical text of a value. -/
def display (v : Value) : Act String := do
  return (← heap).display v

/-- Deep equality of two values. -/
def equal (a b : Value) : Act Bool := do
  return (← heap).equal a b

end Act

end ScriptLib
