/-!
# Code points as bytes

A pattern runs over texts, but its automaton reads bytes: each code point is its UTF-8
encoding, one to four bytes, and a range of code points becomes a list of sequences of
byte ranges. A sequence matches exactly the encodings whose `k`-th byte lies in its
`k`-th range, and the sequences of a range match exactly the encodings of its code points.

The splitting keeps to ranges whose encodings all have the same length and, within such a
range, to ranges that a product of byte ranges describes: a range is cut at the gap of the
surrogates, at the last code point of each encoding length, and then at block boundaries
until its first and last code points share all leading bytes but one block, which makes
the byte ranges of their encodings an exact product. The sequences come out in order.
-/

-- Powers of numbers are the core ones, `NatPow`'s, whatever else is in scope.
attribute [local instance (high)] instPowNat

namespace ScriptLib

namespace Regex

/-- The number of bytes of a code point's encoding. -/
def utf8Length (c : Nat) : Nat :=
  if c < 0x80 then 1 else if c < 0x800 then 2 else if c < 0x10000 then 3 else 4

/-- The bytes of a code point's encoding. -/
def utf8Bytes (c : Nat) : List Nat :=
  if c < 0x80 then [c]
  else if c < 0x800 then [0xC0 + c / 0x40, 0x80 + c % 0x40]
  else if c < 0x10000 then [0xE0 + c / 0x1000, 0x80 + c / 0x40 % 0x40, 0x80 + c % 0x40]
  else [0xF0 + c / 0x40000, 0x80 + c / 0x1000 % 0x40, 0x80 + c / 0x40 % 0x40, 0x80 + c % 0x40]

/-- An inclusive range of bytes. -/
structure ByteRange where
  lo : Nat
  hi : Nat
  deriving BEq, Repr, Inhabited

/-- What one step of splitting does with a range of code points. -/
inductive Cut where
  /-- the range holds nothing -/
  | drop
  /-- the range is cut in two, both still to split -/
  | split (a b c d : Nat)
  /-- the range is one sequence -/
  | emit (seq : List ByteRange)

/-- The last code point whose encoding has `i` bytes. -/
def lastOfLength (i : Nat) : Nat := 2 ^ (if i = 1 then 7 else 5 * i + 1) - 1

/-- The first cut at an encoding length inside `[s, e]`, if any. -/
def lengthCut (s e : Nat) : Option Cut :=
  [1, 2, 3].findSome? fun i =>
    let m := lastOfLength i
    if s ≤ m ∧ m < e then some (.split s m (m + 1) e) else none

/-- The first cut at a block boundary inside `[s, e]`, if any: a block of `6 i` bits that
the two ends do not share and that the range does not cover from its first code point or
to its last. -/
def blockCut (s e : Nat) : Option Cut :=
  [1, 2, 3].findSome? fun (i : Nat) =>
    let size := 2 ^ (6 * i)
    if s / size = e / size then none
    else if s % size ≠ 0 then some (.split s (s - s % size + size - 1) (s - s % size + size) e)
    else if e % size ≠ size - 1 then some (.split s (e - e % size - 1) (e - e % size) e)
    else none

/-- One step of splitting a range of code points. -/
def cutRange (s e : Nat) : Cut :=
  if s < 0xE000 ∧ e > 0xD7FF then .split s 0xD7FF 0xE000 e
  else if s > e then .drop
  else match lengthCut s e with
    | some c => c
    | none =>
      if e ≤ 0x7F then .emit [⟨s, e⟩]
      else match blockCut s e with
        | some c => c
        | none => .emit ((utf8Bytes s).zipWith (fun a b => ⟨a, b⟩) (utf8Bytes e))

/-- Splits the ranges of a stack, the top first. -/
def sequencesGo : Nat → List (Nat × Nat) → List (List ByteRange)
  | 0, _ => []
  | _, [] => []
  | fuel + 1, (s, e) :: stack =>
    match cutRange s e with
    | .drop => sequencesGo fuel stack
    | .split a b c d => sequencesGo fuel ((a, b) :: (c, d) :: stack)
    | .emit seq => seq :: sequencesGo fuel stack

/-- The byte sequences of the code points from `s` to `e`, in order. Each cut adds one
range and each sequence removes one, and a range yields fewer than a hundred of them, so
the bound on the steps is never reached. -/
def utf8Sequences (s e : Nat) : List (List ByteRange) :=
  sequencesGo 256 [(s, e)]

end Regex

end ScriptLib
