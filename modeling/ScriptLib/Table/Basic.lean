import ScriptLib.Value.Basic
import ScriptLib.Text.Units

/-!
# Tables: the store of a map

A map keeps its entries in insertion order, each under an insertion number that only
grows, so a key overwritten in place keeps its position. Keys are compared by a key
equality that the caller supplies (deep equality, which needs the heap).

To find a key the table does not scan all entries: every entry's number also sits in
the bucket of its key's slot, and a probe only looks at the bucket of its own slot, in
insertion order, and takes the first entry whose key equals the probe. The slot of a key
is the hash of its text; every container, and every text that starts like a container's
text, shares one slot, so keys that are equal as texts always share a slot.
-/

namespace ScriptLib

/-- The slot shared by containers and by texts that start with a bracket or a brace. -/
def containerSlot : Int := 0x005b007b

/-- The slot of a key. -/
def Value.slot : Value → Int
  | .list _ | .map _ => containerSlot
  | .str s =>
    match s.toList with
    | '[' :: _ | '\x7b' :: _ => containerSlot
    | _ => Text.hash s
  | v => Text.hash v.scalarText

/-- One entry of a table: its insertion number, key and value. -/
structure Entry where
  seq : Nat
  key : Value
  val : Value
  deriving Inhabited, Repr

/-- The store of a map: entries in insertion order, buckets of insertion numbers by slot,
and the next insertion number. -/
structure Table where
  entries : List Entry := []
  buckets : List (Int × List Nat) := []
  nextSeq : Nat := 0
  deriving Inhabited, Repr

namespace Table

/-- The empty table. -/
def empty : Table := {}

/-- Number of entries. -/
def size (t : Table) : Nat := t.entries.length

/-- The entries as key–value pairs, in insertion order. -/
def pairs (t : Table) : List (Value × Value) :=
  t.entries.map fun e => (e.key, e.val)

/-- The keys in insertion order. -/
def keys (t : Table) : List Value := t.entries.map Entry.key

/-- The values in insertion order. -/
def values (t : Table) : List Value := t.entries.map Entry.val

/-- The entry with an insertion number. -/
def entry? (t : Table) (s : Nat) : Option Entry :=
  t.entries.find? fun e => e.seq == s

/-- The bucket of a slot; empty when the slot has none. -/
def bucket (t : Table) (slot : Int) : List Nat :=
  match t.buckets.find? fun b => b.1 == slot with
  | some b => b.2
  | none => []

/-- The insertion number of the first entry, in its slot's bucket, whose key equals the
probe. -/
def find? (eq : Value → Value → Bool) (t : Table) (key : Value) : Option Nat :=
  (t.bucket key.slot).find? fun s =>
    match t.entry? s with
    | some e => eq e.key key
    | none => false

/-- The value stored under a key. -/
def get? (eq : Value → Value → Bool) (t : Table) (key : Value) : Option Value :=
  match find? eq t key with
  | some s => (t.entry? s).map Entry.val
  | none => none

/-- Whether a key is present. -/
def contains (eq : Value → Value → Bool) (t : Table) (key : Value) : Bool :=
  (find? eq t key).isSome

/-- Buckets with an insertion number added to a slot's bucket, the bucket made if new. -/
def addToBucket (slot : Int) (s : Nat) : List (Int × List Nat) → List (Int × List Nat)
  | [] => [(slot, [s])]
  | b :: bs => if b.1 == slot then (b.1, b.2 ++ [s]) :: bs else b :: addToBucket slot s bs

/-- Buckets with an insertion number taken out of a slot's bucket, the bucket dropped
once empty. -/
def dropFromBucket (slot : Int) (s : Nat) : List (Int × List Nat) → List (Int × List Nat)
  | [] => []
  | b :: bs =>
    if b.1 == slot then
      let rest := b.2.filter (· != s)
      if rest.isEmpty then bs else (b.1, rest) :: bs
    else b :: dropFromBucket slot s bs

/-- A table with an entry's value replaced. -/
def setVal (t : Table) (s : Nat) (v : Value) : Table :=
  { t with entries := t.entries.map fun e => if e.seq == s then { e with val := v } else e }

/-- Stores a value under a key: an equal key keeps its place and gets the value, giving
back the old one; a new key goes last. -/
def insert (eq : Value → Value → Bool) (t : Table) (key val : Value) : Table × Option Value :=
  match find? eq t key with
  | some s =>
    match t.entry? s with
    | some e => (t.setVal s val, some e.val)
    | none => (t, none)
  | none =>
    let s := t.nextSeq
    ({ entries := t.entries ++ [⟨s, key, val⟩]
       buckets := addToBucket key.slot s t.buckets
       nextSeq := s + 1 }, none)

/-- Takes out the entry with an insertion number. -/
def eraseSeq (t : Table) (s : Nat) : Table × Option (Value × Value) :=
  match t.entry? s with
  | some e =>
    ({ t with
        entries := t.entries.filter fun e' => e'.seq != s
        buckets := dropFromBucket e.key.slot s t.buckets }, some (e.key, e.val))
  | none => (t, none)

/-- Takes out the entry of a key, giving back its value. -/
def remove (eq : Value → Value → Bool) (t : Table) (key : Value) : Table × Option Value :=
  match find? eq t key with
  | some s =>
    let (t', kv) := t.eraseSeq s
    (t', kv.map Prod.snd)
  | none => (t, none)

/-- Takes out the newest entry. -/
def popLast (t : Table) : Table × Option (Value × Value) :=
  match t.entries.getLast? with
  | some e => t.eraseSeq e.seq
  | none => (t, none)

/-- Takes out the oldest entry. -/
def popFirst (t : Table) : Table × Option (Value × Value) :=
  match t.entries.head? with
  | some e => t.eraseSeq e.seq
  | none => (t, none)

/-- Gives the entries, in order, the values of a list; entries past its end keep theirs. -/
def setValues (t : Table) (vs : List Value) : Table :=
  { t with entries := go t.entries vs }
where
  go : List Entry → List Value → List Entry
    | e :: es, v :: vs => { e with val := v } :: go es vs
    | es, [] => es
    | [], _ => []

end Table

end ScriptLib
