import ScriptLib.Text.Units
import ScriptLib.Number.Binary

/-!
# Seeded streams

A seed text gives a stream of numbers in `[0, 1)` that is the same on every host. The
text is absorbed by the xmur3 mixer over its UTF-16 units; the mixer's first output is
the state of a Mulberry32 generator, and each draw advances that state by `0x6D2B79F5`
and mixes it into a 32-bit output `u`, which gives the number `u / 2 ^ 32`.

`Seeds` keeps one generator per seed text, made on first use; clearing it restarts every
stream.
-/

-- Powers of numbers are the core ones, `NatPow`'s, whatever else is in scope.
attribute [local instance (high)] instPowNat

namespace ScriptLib

namespace Random

/-- Rotation of a 32-bit word to the left. -/
def rotl32 (x : UInt32) (k : UInt32) : UInt32 :=
  (x <<< k) ||| (x >>> (32 - k))

/-- The xmur3 mixer of a seed text. -/
structure Xmur3 where
  h : UInt32
  deriving Repr, DecidableEq

namespace Xmur3

/-- The mixer after absorbing a seed text. -/
def ofSeed (seed : String) : Xmur3 :=
  let us := Text.units seed
  let h0 : UInt32 := 1779033703 ^^^ UInt32.ofNat us.length
  ⟨us.foldl (fun h u => rotl32 ((h ^^^ UInt32.ofNat u) * 3432918353) 13) h0⟩

/-- The next output of the mixer. -/
def next (x : Xmur3) : UInt32 × Xmur3 :=
  let h := x.h
  let h := (h ^^^ (h >>> 16)) * 2246822507
  let h := (h ^^^ (h >>> 13)) * 3266489909
  let h := h ^^^ (h >>> 16)
  (h, ⟨h⟩)

/-- The first `n` outputs of the mixer. -/
def take (x : Xmur3) : Nat → List UInt32
  | 0 => []
  | n + 1 => let (u, x') := x.next; u :: take x' n

end Xmur3

/-- A Mulberry32 generator. -/
structure Mulberry where
  state : UInt32
  deriving Repr, DecidableEq

namespace Mulberry

/-- The step added to the state on each draw. -/
def increment : UInt32 := 0x6D2B79F5

/-- The output mixing of a state. -/
def mix (s : UInt32) : UInt32 :=
  let t := (s ^^^ (s >>> 15)) * (s ||| 1)
  let t := t ^^^ (t + (t ^^^ (t >>> 7)) * (t ||| 61))
  t ^^^ (t >>> 14)

/-- The generator of a seed text: its state is the mixer's first output. -/
def ofSeed (seed : String) : Mulberry :=
  ⟨(Xmur3.ofSeed seed).next.1⟩

/-- The next 32-bit output. -/
def nextU32 (g : Mulberry) : UInt32 × Mulberry :=
  let s := g.state + increment
  (mix s, ⟨s⟩)

/-- The next number in `[0, 1)`: a 32-bit output over `2 ^ 32`. -/
def nextF64 (g : Mulberry) : Double × Mulberry :=
  let (u, g') := g.nextU32
  (Binary.round false u.toNat (2 ^ (32 : Nat)), g')

/-- The next 64-bit output: the first 32-bit output is the low half. -/
def nextU64 (g : Mulberry) : UInt64 × Mulberry :=
  let (lo, g1) := g.nextU32
  let (hi, g2) := g1.nextU32
  ((hi.toUInt64 <<< 32) ||| lo.toUInt64, g2)

/-- The four bytes of a word, least significant first. -/
def bytesLE (u : UInt32) : List UInt8 :=
  [u.toUInt8, (u >>> 8).toUInt8, (u >>> 16).toUInt8, (u >>> 24).toUInt8]

/-- `n` bytes: the bytes of successive 32-bit outputs, the last output cut short. -/
def fillBytes (g : Mulberry) (n : Nat) : List UInt8 × Mulberry :=
  go g n ((n + 3) / 4)
where
  go (g : Mulberry) (n : Nat) : Nat → List UInt8 × Mulberry
    | 0 => ([], g)
    | k + 1 =>
      let (u, g') := g.nextU32
      let (rest, g'') := go g' (n - 4) k
      ((bytesLE u).take n ++ rest, g'')

end Mulberry

/-- The seeded streams of a context, one per seed text. -/
structure Seeds where
  streams : List (String × Mulberry) := []
  deriving Repr

namespace Seeds

/-- The next number of a seed's stream, the stream made if new. -/
def next (s : Seeds) (seed : String) : Double × Seeds :=
  let g := match s.streams.lookup seed with
    | some g => g
    | none => Mulberry.ofSeed seed
  let (x, g') := g.nextF64
  let streams :=
    if s.streams.any (·.1 == seed) then s.streams.map fun p => if p.1 == seed then (seed, g') else p
    else s.streams ++ [(seed, g')]
  (x, ⟨streams⟩)

/-- Number of streams. -/
def size (s : Seeds) : Nat := s.streams.length

/-- Every stream dropped. -/
def clear (_ : Seeds) : Seeds := {}

end Seeds

end Random

end ScriptLib
