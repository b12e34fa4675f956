import ScriptLib.Heap.Basic

/-!
# Deep hash

The hash of a value is a 32-bit word. Nil hashes to 0, a boolean to 1 or 0, a number to
its 32-bit word, a text to its text hash. A container starts from the hash of its size
and folds in, by exclusive or, the hashes of its elements one level down (for a map, of
each key and each value; a text key by its text hash). A list stops descending below
depth 1 and a map below depth 0, so parts nested deeper than the depth do not count.

The recursion runs on `depth + 1`, which every step into a container lowers.
-/

-- Powers of numbers are the core ones, `NatPow`'s, whatever else is in scope.
attribute [local instance (high)] instPowNat

namespace ScriptLib

namespace Number

/-- Exclusive or of two 32-bit words. -/
def xor32 (a b : Int) : Int :=
  wrap32 (Int.ofNat ((a % 2 ^ (32 : Nat)).toNat ^^^ (b % 2 ^ (32 : Nat)).toNat))

end Number

namespace Heap

/-- The deep hash of a value at depth `fuel - 1`. -/
def hashAt (h : Heap) : Nat → Value → Int
  | fuel, .list l =>
    let xs := (h.items l).toList
    let start := Number.mixHash (Number.ofInt xs.length) 0
    match fuel with
    | f + 2 => xs.foldl (fun acc x => Number.xor32 acc (hashAt h (f + 1) x)) start
    | _ => start
  | fuel, .map m =>
    let es := (h.table m).entries
    let start := Number.mixHash (Number.ofInt es.length) 0
    match fuel with
    | f + 1 =>
      es.foldl (fun acc e =>
        let kh := match e.key with
          | .str s => Text.hash s
          | k => hashAt h f k
        Number.xor32 (Number.xor32 acc kh) (hashAt h f e.val)) start
    | 0 => start
  | _, .str s => Text.hash s
  | _, .bool b => Number.mixHash (Number.ofInt (if b then 1 else 0)) 0
  | _, .num x => Number.mixHash x 0
  | _, .nil => 0

/-- The deep hash of a value down to a depth. -/
def hash (h : Heap) (v : Value) (depth : Int) : Int :=
  hashAt h (depth + 1).toNat v

end Heap

end ScriptLib
