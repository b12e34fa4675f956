import ScriptLib.Number.Double

/-!
# Binary fields of a double

A double is read as its three fields: a sign bit, an 11-bit biased exponent and a 52-bit
fraction. A finite double is then `± mant · 2 ^ exp` with a natural mantissa, so every
rule on numbers in this library (digits, truncation, rounding) is exact arithmetic on
`Nat` and `Int` over these fields.

The way back, `Binary.round`, takes a sign and a positive rational and gives the double
nearest to it, a tie going to the even mantissa, and infinity past the largest finite
double: the rounding of IEEE 754 binary64 to nearest.
-/

-- Powers of numbers are the core ones, `NatPow`'s, whatever else is in scope.
attribute [local instance (high)] instPowNat

namespace ScriptLib

/-- A double, decoded: a signed NaN, an infinity, or `± mant · 2 ^ exp`. -/
inductive Binary where
  | nan (neg : Bool)
  | inf (neg : Bool)
  | finite (neg : Bool) (mant : Nat) (exp : Int)
  deriving Repr, DecidableEq, Inhabited

namespace Binary

/-- Place value of the sign bit. -/
def signPlace : Nat := 2 ^ (63 : Nat)

/-- Number of fraction patterns, one binade's worth of mantissas. -/
def fractionCount : Nat := 2 ^ (52 : Nat)

/-- Exponent of the least subnormal, `2 ^ -1074`. -/
def minExp : Int := -1074

/-- Exponent of the unit in the last place of the largest binade. -/
def maxExp : Int := 971

/-- The fields of a bit pattern. An all-ones exponent is an infinity or a NaN; a zero
exponent is a subnormal, whose mantissa lacks the hidden bit. -/
def ofBits (b : Nat) : Binary :=
  let neg := decide (signPlace ≤ b % 2 ^ (64 : Nat))
  let e := b % signPlace / fractionCount
  let f := b % fractionCount
  if e = 2047 then (if f = 0 then .inf neg else .nan neg)
  else if e = 0 then .finite neg f minExp
  else .finite neg (f + fractionCount) ((e : Int) - 1075)

/-- The decoded fields of a double. -/
def ofDouble (x : Double) : Binary :=
  ofBits x.bits.toNat

/-- The bit pattern of a finite double with a mantissa below `2 ^ 53`: subnormal when the
mantissa lacks the hidden bit. -/
def finiteBits (neg : Bool) (mant : Nat) (exp : Int) : Nat :=
  let sign := if neg then signPlace else 0
  if mant < fractionCount then sign + mant
  else sign + (exp + 1075).toNat * fractionCount + (mant - fractionCount)

/-- The double of a bit pattern given as a natural number. -/
def toDouble (b : Nat) : Double :=
  ⟨UInt64.ofNat b⟩

/-- The double with its sign bit flipped, a NaN's as well. -/
def negate (x : Double) : Double :=
  toDouble ((x.bits.toNat + signPlace) % 2 ^ (64 : Nat))

instance : Neg Double := ⟨negate⟩

/-- The quiet NaN with a sign. -/
def quietNaN (neg : Bool) : Double :=
  toDouble ((if neg then signPlace else 0) + 2047 * fractionCount + fractionCount / 2)

/-- Signed infinity. -/
def infinity (neg : Bool) : Double :=
  toDouble ((if neg then signPlace else 0) + 2047 * fractionCount)

/-- Signed zero. -/
def zero (neg : Bool) : Double :=
  toDouble (if neg then signPlace else 0)

/-- `n / d` rounded to the nearest natural number, a tie going to the even one. -/
def roundHalfEven (n d : Nat) : Nat :=
  let q := n / d
  let r := n % d
  if 2 * r < d then q
  else if d < 2 * r then q + 1
  else if q % 2 = 0 then q else q + 1

/-- `⌊log₂ (n / d)⌋` for positive `n` and `d`. -/
def floorLog2 (n d : Nat) : Int :=
  let k : Int := (n.log2 : Int) - (d.log2 : Int)
  -- `k` is the answer or one above it
  if k ≥ 0 then
    (if n < d * 2 ^ k.toNat then k - 1 else k)
  else
    (if n * 2 ^ (-k).toNat < d then k - 1 else k)

/-- `n / d · 2 ^ (-e)` rounded to the nearest natural number, a tie to the even one. -/
def scaledRound (n d : Nat) (e : Int) : Nat :=
  if e ≤ 0 then roundHalfEven (n * 2 ^ (-e).toNat) d
  else roundHalfEven n (d * 2 ^ e.toNat)

/-- The double nearest to `± n / d`: the mantissa has 53 bits where the exponent allows,
fewer among the subnormals; a result past the largest finite double is infinite. -/
def round (neg : Bool) (n d : Nat) : Double :=
  if n = 0 ∨ d = 0 then zero neg
  else
    let e := max (floorLog2 n d - 52) minExp
    let m := scaledRound n d e
    -- rounding up may carry into a 54th bit
    let (m, e) := if m = 2 * fractionCount then (fractionCount, e + 1) else (m, e)
    if e > maxExp then infinity neg
    else toDouble (finiteBits neg m e)

/-- The double nearest to an integer. -/
def ofInt (i : Int) : Double :=
  round (i < 0) i.natAbs 1

end Binary

end ScriptLib
