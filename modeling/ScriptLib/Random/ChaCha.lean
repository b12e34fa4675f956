import ScriptLib.Random.Mulberry

/-!
# The unseeded source

The unseeded source is the ChaCha stream cipher with 8 rounds used as a generator. Its
256-bit key comes from a 64-bit seed through the PCG32 generator: eight outputs, each a
32-bit key word. The stream is read in buffers of four 64-byte blocks, block counter
first, 32-bit words little-end first; a 64-bit draw takes two words, the first as the
low half.

On top of 64-bit draws sit the two draws the library makes:

* a number in `[0, 1)`: the top 53 bits of a draw times `2 ^ -53`;
* an index in `[0, i]`: with `range = i + 1`, a draw `v` is accepted when the low half of
  the 128-bit product `v · range` is at most the zone `(range << lz(range)) - 1`, and the
  high half is the index. A rejected draw is followed by another; the fuel bounds these
  retries far beyond what any draw needs (each is rejected with probability below one
  half).
-/

-- Powers of numbers are the core ones, `NatPow`'s, whatever else is in scope.
attribute [local instance (high)] instPowNat

namespace ScriptLib

namespace Random

/-- The PCG32 step and output used to expand a 64-bit seed. -/
def pcg32 (state : UInt64) : UInt32 × UInt64 :=
  let s := state * 6364136223846793005 + 11634580027462260723
  let xorshifted := (((s >>> 18) ^^^ s) >>> 27).toUInt32
  let rot := (s >>> 59).toUInt32
  ((xorshifted >>> rot) ||| (xorshifted <<< ((32 - rot) % 32)), s)

/-- The eight key words of a seed. -/
def keyOfSeed (seed : UInt64) : List UInt32 :=
  go seed 8
where
  go (s : UInt64) : Nat → List UInt32
    | 0 => []
    | n + 1 => let (w, s') := pcg32 s; w :: go s' n

/-- The quarter round on four words of the state. -/
def quarter (st : Array UInt32) (a b c d : Nat) : Array UInt32 :=
  let x := st.getD a 0 + st.getD b 0
  let st := st.set! a x
  let y := rotl32 (st.getD d 0 ^^^ x) 16
  let st := st.set! d y
  let z := st.getD c 0 + y
  let st := st.set! c z
  let w := rotl32 (st.getD b 0 ^^^ z) 12
  let st := st.set! b w
  let x := st.getD a 0 + w
  let st := st.set! a x
  let y := rotl32 (st.getD d 0 ^^^ x) 8
  let st := st.set! d y
  let z := st.getD c 0 + y
  let st := st.set! c z
  let w := rotl32 (st.getD b 0 ^^^ z) 7
  st.set! b w

/-- A column round followed by a diagonal round. -/
def doubleRound (st : Array UInt32) : Array UInt32 :=
  let st := quarter st 0 4 8 12
  let st := quarter st 1 5 9 13
  let st := quarter st 2 6 10 14
  let st := quarter st 3 7 11 15
  let st := quarter st 0 5 10 15
  let st := quarter st 1 6 11 12
  let st := quarter st 2 7 8 13
  quarter st 3 4 9 14

/-- The sixteen words of one block of the stream at a block counter. -/
def block (key : List UInt32) (counter : UInt64) : List UInt32 :=
  let input : Array UInt32 :=
    (#[0x61707865, 0x3320646e, 0x79622d32, 0x6b206574] : Array UInt32) ++ key.toArray ++
      #[counter.toUInt32, (counter >>> 32).toUInt32, 0, 0]
  let out := (List.range 4).foldl (fun st _ => doubleRound st) input
  (out.toList.zip input.toList).map fun (a, b) => a + b

/-- The unseeded source: its key, the next block counter, and the buffer of words not yet
read. -/
structure ChaCha where
  key : List UInt32
  counter : UInt64 := 0
  buffer : Array UInt32 := #[]
  index : Nat := 0
  deriving Repr

namespace ChaCha

/-- Words in a buffer: four blocks. -/
def bufferWords : Nat := 64

/-- The source of a 64-bit seed, with an empty buffer. -/
def ofSeed (seed : UInt64) : ChaCha :=
  { key := keyOfSeed seed, counter := 0, buffer := #[], index := bufferWords }

/-- The source with its buffer filled from the next four blocks. -/
def refill (g : ChaCha) : ChaCha :=
  let words := (List.range 4).flatMap fun i => block g.key (g.counter + UInt64.ofNat i)
  { g with buffer := words.toArray, counter := g.counter + 4, index := 0 }

/-- The next 64-bit draw: two words, the first as the low half; a draw that would start
at the last word takes it and the first word of the next buffer. -/
def nextU64 (g : ChaCha) : UInt64 × ChaCha :=
  let word (b : Array UInt32) (i : Nat) : UInt64 := (b.getD i 0).toUInt64
  if g.index + 1 < bufferWords then
    ((word g.buffer (g.index + 1) <<< 32) ||| word g.buffer g.index, { g with index := g.index + 2 })
  else if g.index ≥ bufferWords then
    let g' := g.refill
    ((word g'.buffer 1 <<< 32) ||| word g'.buffer 0, { g' with index := 2 })
  else
    let lo := word g.buffer (bufferWords - 1)
    let g' := g.refill
    ((word g'.buffer 0 <<< 32) ||| lo, { g' with index := 1 })

/-- A number in `[0, 1)` from the top 53 bits of a draw. -/
def nextUnit (g : ChaCha) : Double × ChaCha :=
  let (v, g') := g.nextU64
  (Binary.round false (v >>> 11).toNat (2 ^ (53 : Nat)), g')

/-- Leading zero bits of a 64-bit word. -/
def leadingZeros (x : UInt64) : Nat :=
  64 - x.toNat.log2 - (if x = 0 then 0 else 1)

/-- An index in `[0, i]`, by widening multiplication with rejection. -/
def nextIndex (g : ChaCha) (i : Nat) : Nat × ChaCha :=
  let range := i + 1
  if range ≥ 2 ^ (64 : Nat) then
    let (v, g') := g.nextU64
    (v.toNat, g')
  else
    let zone := ((range * 2 ^ leadingZeros (UInt64.ofNat range)) % 2 ^ (64 : Nat) + 2 ^ (64 : Nat) - 1) % 2 ^ (64 : Nat)
    go range zone 64 g
where
  go (range zone : Nat) : Nat → ChaCha → Nat × ChaCha
    | 0, g => (0, g)
    | fuel + 1, g =>
      let (v, g') := g.nextU64
      let product := v.toNat * range
      if product % 2 ^ (64 : Nat) ≤ zone then (product / 2 ^ (64 : Nat), g') else go range zone fuel g'

end ChaCha

end Random

end ScriptLib
