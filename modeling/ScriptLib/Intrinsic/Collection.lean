import ScriptLib.Intrinsic.Basic

/-!
# Collection intrinsics

Functions over lists, maps and texts. Lookups (`hasIndex`, `indexOf`, `len`, `pop`, …)
answer nil or false for a receiver they do not apply to; functions that only make sense
for some kinds fail with a type mismatch on the others.

Offsets count from the end when negative. A search offset is resolved and clamped to
the sequence: `indexOf` looks strictly after `after`, `lastIndexOf` at or before
`before`; on a map both name a key, and the search runs over the entries after (or
before) the first entry whose key equals it. Every check of a call comes before its first
change to a container, so a failed call changes nothing.
-/

namespace ScriptLib

namespace Intrinsic

open Act

/-- Whether a key, or an index, names an element. -/
def hasIndex (args : List Value) : Act Value := do
  let h ← heap
  let index := argAt args 1
  let found := match argAt args 0, index with
    | .map m, key => (h.table m).contains h.equal key
    | .list l, .num n => isWhole n && (Index.normalize (Number.toInt64 n) (h.items l).size).isSome
    | .str s, .num n => isWhole n && (Index.normalize (Number.toInt64 n) s.length).isSome
    | _, _ => false
  return .bool found

/-- Where a search of a sequence of length `len` starts: just after the offset, the step
taken in 64-bit words. -/
def startAfter (after : Value) (len : Nat) : Nat :=
  match offsetOf after with
  | some a => clampIndex (Index.next (Index.resolve a len)) len
  | none => 0

/-- Where a backward search of a list of length `len` ends: just after the offset, the step
taken in 64-bit words; none when the offset lies before the start. -/
def endAfter (before : Value) (len : Nat) : Option Nat :=
  match offsetOf before with
  | none => some len
  | some b =>
    let b := Index.resolve b len
    if b < 0 then none else some (clampIndex (Index.next b) len)

/-- The last position a backward search of a text of length `len` may start at: the offset;
none when the offset lies before the start. -/
def lastStart (before : Value) (len : Nat) : Option Nat :=
  match offsetOf before with
  | none => some len
  | some b =>
    let b := Index.resolve b len
    if b < 0 then none else some (clampIndex b len)

/-- The bounds of a slice of a sequence of length `n`; an end offset of 0 means the end. -/
def sliceBounds (start stop : Int) (n : Nat) : Nat × Nat :=
  let a := clampIndex (Index.resolve start n) n
  let b := if stop = 0 then n else clampIndex (Index.resolve stop n) n
  (a, max a b)

/-- The first position, at or after `start`, of an element equal to the needle. -/
def firstEqual (h : Heap) (needle : Value) (xs : List Value) (start : Nat) : Option Nat :=
  ((xs.drop start).findIdx? fun x => h.equal x needle).map (· + start)

/-- The last position, before `stop`, of an element equal to the needle. -/
def lastEqual (h : Heap) (needle : Value) (xs : List Value) (stop : Nat) : Option Nat :=
  ((xs.take stop).reverse.findIdx? fun x => h.equal x needle).map fun i => min stop xs.length - 1 - i

/-- The position of the first entry whose key equals a key. -/
def keyPosition (h : Heap) (es : List Entry) (key : Value) : Option Nat :=
  es.findIdx? fun e => h.equal e.key key

/-- Where a needle first occurs after an offset. -/
def indexOf (args : List Value) : Act Value := do
  let h ← heap
  let needle := argAt args 1
  let after := argAt args 2
  match argAt args 0 with
  | .list l =>
    let xs := (h.items l).toList
    return match firstEqual h needle xs (startAfter after xs.length) with
      | some i => natValue i
      | none => .nil
  | .map m =>
    let es := (h.table m).entries
    let start := if after.isNil then some 0 else (keyPosition h es after).map (· + 1)
    match start with
    | none => return .nil
    | some s =>
      return match (es.drop s).find? (fun e => h.equal e.val needle) with
        | some e => e.key
        | none => .nil
  | .str s =>
    if needle.isNil then return .nil
    let cs := s.toList
    let found ← ofCut (Text.charFind cs (h.display needle).toList (startAfter after cs.length))
    return match found with
      | some i => natValue i
      | none => .nil
  | _ => return .nil

/-- Where a needle last occurs at or before an offset. -/
def lastIndexOf (args : List Value) : Act Value := do
  let h ← heap
  let needle := argAt args 1
  let before := argAt args 2
  match argAt args 0 with
  | .list l =>
    let xs := (h.items l).toList
    match endAfter before xs.length with
    | none => return .nil
    | some e =>
      return match lastEqual h needle xs e with
        | some i => natValue i
        | none => .nil
  | .map m =>
    let es := (h.table m).entries
    let stop := if before.isNil then some es.length else keyPosition h es before
    match stop with
    | none => return .nil
    | some e =>
      return match ((es.take e).reverse.find? fun en => h.equal en.val needle) with
        | some en => en.key
        | none => .nil
  | .str s =>
    if needle.isNil then return .nil
    let cs := s.toList
    match lastStart before cs.length with
    | none => return .nil
    | some b =>
      let found ← ofCut (Text.charRfind cs (h.display needle).toList b)
      return match found with
        | some i => natValue i
        | none => .nil
  | _ => return .nil

/-- The positions of a sequence, or the keys of a map, as a new list. -/
def indexes (args : List Value) : Act Value := do
  let h ← heap
  match argAt args 0 with
  | .list l => newList ((List.range (h.items l).size).map natValue)
  | .map m => newList (h.table m).keys
  | .str s => newList ((List.range s.length).map natValue)
  | _ => return .nil

/-- The elements of a list, the values of a map or the characters of a text, as a new
list. -/
def values (args : List Value) : Act Value := do
  let h ← heap
  match argAt args 0 with
  | .list l => newList (h.items l).toList
  | .map m => newList (h.table m).values
  | .str s => newList (s.toList.map fun c => .str (String.singleton c))
  | _ => return .nil

/-- The number of elements, entries or characters. -/
def len (args : List Value) : Act Value := do
  let h ← heap
  return match argAt args 0 with
    | .list l => natValue (h.items l).size
    | .map m => natValue (h.table m).size
    | .str s => natValue s.length
    | _ => .nil

/-- The part of a sequence between two offsets; an end of 0 means the end. -/
def slice (args : List Value) : Act Value := do
  let h ← heap
  match offsetOf (argAt args 1) with
  | none => return .nil
  | some start =>
    let stop := (offsetOf (argAt args 2)).getD 0
    match argAt args 0 with
    | .list l =>
      let xs := (h.items l).toList
      let (a, b) := sliceBounds start stop xs.length
      newList ((xs.drop a).take (b - a))
    | .str s =>
      let cs := s.toList
      let (a, b) := sliceBounds start stop cs.length
      let part ← ofCut (Text.charSlice cs a b)
      return .str (String.ofList part)
    | _ => return .nil

/-- Inserts a value before a position: in place for a list, into a new text for a text. -/
def insert (args : List Value) : Act Value := do
  let recv := argAt args 0
  let value := argAt args 2
  match recv with
  | .list l =>
    let index ← intArg args 1
    let xs := (← heap).items l
    let k := Index.resolve index xs.size
    ofResult (Index.checkRange (Number.ofInt k) (Number.ofInt 0) (Number.ofInt xs.size) "index")
    match value with
    | .list l' => if l' = l then fail (.invalidArgument "insert" "cannot insert a list into itself")
    | _ => pure ()
    modifyHeap fun h => h.setItems l (xs.toList.insertIdx (clampIndex k xs.size) value).toArray
    return recv
  | .str s =>
    let index ← intArg args 1
    let cs := s.toList
    let k := Index.resolve index cs.length
    ofResult (Index.checkRange (Number.ofInt k) (Number.ofInt 0) (Number.ofInt cs.length) "index")
    let k := clampIndex k cs.length
    let before ← ofCut (Text.charSlice cs 0 k)
    let text ← display value
    let after ← ofCut (Text.charSlice cs k cs.length)
    return .str (String.ofList before ++ text ++ String.ofList after)
  | other => fail (typeError .sequence other)

/-- Takes out a key of a map, an element of a list, or the first occurrence of a text. -/
def remove (args : List Value) : Act Value := do
  let key := argAt args 1
  if key.isNil then fail (.invalidArgument "remove" "key must not be null")
  match argAt args 0 with
  | .map m =>
    let h ← heap
    let (t, old) := (h.table m).remove h.equal key
    modifyHeap fun h => h.setTable m t
    return .bool old.isSome
  | .list l =>
    let index ← intArg args 1
    let xs := (← heap).items l
    match Index.normalize index xs.size with
    | some k =>
      modifyHeap fun h => h.setItems l (xs.toList.eraseIdx k).toArray
      return .nil
    | none =>
      let n := Number.ofInt xs.size
      fail (.indexOutOfRange "index" (Number.ofInt index) (Number.neg n) (Number.sub n (Number.ofInt 1)))
  | .str s =>
    let k ← display key
    return .str (String.ofList (Text.replace s.toList k.toList [] 1))
  | other => fail (typeError .collection other)

/-- Appends a value to a list, or records it as a key of a map. -/
def push (args : List Value) : Act Value := do
  let recv := argAt args 0
  let value := argAt args 1
  match recv with
  | .list l =>
    match value with
    | .list l' => if l' = l then fail (.invalidArgument "push" "cannot push a list into itself")
    | _ => pure ()
    modifyHeap fun h => h.setItems l ((h.items l).push value)
    return recv
  | .map m =>
    if value.isNil then fail (.invalidArgument "push" "key map cannot be null")
    match value with
    | .map m' => if m' = m then fail (.invalidArgument "push" "cannot push a map into itself")
    | _ => pure ()
    let h ← heap
    if (h.table m).contains h.equal value then
      fail (.invalidArgument "push" s!"key map has already been added: {h.display value}")
    let (t, _) := (h.table m).insert h.equal value (.num (Number.ofInt 1))
    modifyHeap fun h => h.setTable m t
    return recv
  | _ => return .nil

/-- Takes out the last element of a list, or the newest entry of a map. -/
def pop (args : List Value) : Act Value := do
  let h ← heap
  match argAt args 0 with
  | .list l =>
    let xs := h.items l
    match xs.back? with
    | some x =>
      modifyHeap fun h => h.setItems l xs.pop
      return x
    | none => return .nil
  | .map m =>
    let (t, kv) := (h.table m).popLast
    modifyHeap fun h => h.setTable m t
    return (kv.map Prod.snd).getD .nil
  | _ => return .nil

/-- Takes out the first element of a list, or the oldest entry of a map. -/
def pull (args : List Value) : Act Value := do
  let h ← heap
  match argAt args 0 with
  | .list l =>
    let xs := h.items l
    match xs[0]? with
    | some x =>
      modifyHeap fun h => h.setItems l (xs.extract 1 xs.size)
      return x
    | none => return .nil
  | .map m =>
    let (t, kv) := (h.table m).popFirst
    modifyHeap fun h => h.setTable m t
    return (kv.map Prod.snd).getD .nil
  | _ => return .nil

/-- Reverses a list in place. -/
def reverse (args : List Value) : Act Value := do
  match argAt args 0 with
  | .list l =>
    modifyHeap fun h => h.setItems l (h.items l).reverse
    return .nil
  | other => fail (typeError .list other)

/-- Values with the first `k` of those equal to `old` replaced by `new`. -/
def replaceEqual (h : Heap) (old new : Value) : Nat → List Value → List Value
  | _, [] => []
  | 0, xs => xs
  | k + 1, x :: xs =>
    if h.equal x old then new :: replaceEqual h old new k xs
    else x :: replaceEqual h old new (k + 1) xs

/-- The sum of the numbers of the values that have one and are not NaN, from a negative
zero. -/
def sumValues (xs : List Value) : Double :=
  (xs.filterMap Value.toNumber?).filter (fun x => !Number.isNaN x)
    |>.foldl Number.add (Number.neg (Number.ofInt 0))

/-- The sum of a list's elements or a map's values. -/
def sum (args : List Value) : Act Value := do
  let h ← heap
  return .num <| match argAt args 0 with
    | .list l => sumValues (h.items l).toList
    | .map m => sumValues (h.table m).values
    | _ => Number.ofInt 0

/-- The texts of a list's elements joined by a separator. -/
def join (args : List Value) : Act Value := do
  match argAt args 0 with
  | .list l =>
    let sep ← match argAt args 1 with
      | .nil => pure ""
      | v => display v
    let limit := (← limits).maxSeparator
    if sep.length > limit then fail (.limitExceeded (.separatorLength limit sep.length))
    let h ← heap
    return .str (sep.intercalate ((h.items l).toList.map h.display))
  | other => fail (typeError .list other)

end Intrinsic

end ScriptLib
