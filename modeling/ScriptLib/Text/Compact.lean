/-!
# Compact tables

Tables of character data are kept as text and decoded once, which is far cheaper to
compile than literal arrays. Code points are hexadecimal; other numbers are decimal,
with an optional minus sign. Entries are separated by commas, or by semicolons when an
entry holds a list.

* a run table lists `start:value`, the value holding from `start` to the next start;
* a range table lists closed ranges `first-last`;
* a case run table lists `first:last:stride:delta`: every `stride`-th code point from
  `first` to `last` maps to the one `delta` places away;
* a list table lists `cp:a b c`, a code point with a list of code points.
-/

namespace ScriptLib

namespace Text

namespace Compact

/-- The value of a hexadecimal numeral; other characters count as zero digits. -/
def hexValue (s : String) : Nat :=
  s.foldl (fun n c =>
    let d :=
      if '0' ≤ c && c ≤ '9' then c.toNat - '0'.toNat
      else if 'a' ≤ c && c ≤ 'f' then c.toNat - 'a'.toNat + 10
      else if 'A' ≤ c && c ≤ 'F' then c.toNat - 'A'.toNat + 10
      else 0
    n * 16 + d) 0

/-- The value of a decimal numeral; other characters count as zero digits. -/
def decimalValue (s : String) : Nat :=
  s.foldl (fun n c => n * 10 + (if '0' ≤ c && c ≤ '9' then c.toNat - '0'.toNat else 0)) 0

/-- The value of a decimal numeral with an optional minus sign. -/
def intValue (s : String) : Int :=
  match s.toList with
  | '-' :: rest => -(decimalValue (String.ofList rest) : Int)
  | _ => decimalValue s

/-- The entries of a run table. -/
def runs (text : String) : Array (Nat × Nat) :=
  ((text.splitOn ",").map fun e =>
    match e.splitOn ":" with
    | [a, b] => (hexValue a, decimalValue b)
    | _ => (0, 0)).toArray

/-- The ranges of a range table; a malformed entry is an empty range. -/
def ranges (text : String) : Array (Nat × Nat) :=
  ((text.splitOn ",").map fun e =>
    match e.splitOn "-" with
    | [a, b] => (hexValue a, hexValue b)
    | _ => (1, 0)).toArray

/-- The runs of a case run table. -/
def caseRuns (text : String) : Array (Nat × Nat × Nat × Int) :=
  ((text.splitOn ",").map fun e =>
    match e.splitOn ":" with
    | [a, b, s, d] => (hexValue a, hexValue b, hexValue s, intValue d)
    | _ => (1, 0, 1, 0)).toArray

/-- The entries of a list table. -/
def lists (text : String) : Array (Nat × List Nat) :=
  ((text.splitOn ";").map fun e =>
    match e.splitOn ":" with
    | [a, b] => (hexValue a, (b.splitOn " ").map hexValue)
    | _ => (0, [])).toArray

/-- Whether a code point lies in one of sorted, disjoint ranges. -/
def inRanges (ranges : Array (Nat × Nat)) (cp : Nat) : Bool :=
  go 0 ranges.size 24
where
  go (lo hi : Nat) : Nat → Bool
    | 0 => false
    | fuel + 1 =>
      if hi ≤ lo then false
      else
        let mid := (lo + hi) / 2
        let (a, b) := ranges.getD mid (0, 0)
        if cp < a then go lo mid fuel
        else if b < cp then go (mid + 1) hi fuel
        else true

end Compact

end Text

end ScriptLib
