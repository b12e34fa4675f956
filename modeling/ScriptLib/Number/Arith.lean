import ScriptLib.Number.Read

/-!
# Arithmetic and order of doubles

The four operations of IEEE 754 binary64 with rounding to nearest, stated as the exact
result rounded once (`Binary.round`), and the order of doubles, stated on their exact
values. NaN is unordered. An operation with a NaN operand gives that operand, the first
one when both are NaN, its sign kept. The infinities follow the usual rules (`∞ - ∞`,
`0 · ∞`, `0 / 0` and `∞ / ∞` are invalid, a non-zero number over zero is infinite), and an
invalid operation gives the NaN with the sign bit set. An exact zero sum is positive
unless both addends are negative zeros; a product or quotient takes the exclusive or of
the signs, also when it is zero.
-/

-- Powers of numbers are the core ones, `NatPow`'s, whatever else is in scope.
attribute [local instance (high)] instPowNat

namespace ScriptLib

namespace Binary

/-- The exact value `n · 2 ^ e` of a finite double, with a signed numerator. -/
def scaled (neg : Bool) (m : Nat) : Int :=
  if neg then -(m : Int) else m

/-- The double nearest to `n · 2 ^ e`, for a non-zero `n`. -/
def ofScaled (n : Int) (e : Int) : Double :=
  if e ≥ 0 then round (n < 0) (n.natAbs * 2 ^ e.toNat) 1
  else round (n < 0) n.natAbs (2 ^ (-e).toNat)

end Binary

namespace Number

/-- Whether a number is NaN. -/
def isNaN (x : Double) : Bool :=
  match Binary.ofDouble x with
  | .nan _ => true
  | _ => false

/-- Whether a number is neither NaN nor infinite. -/
def isFinite (x : Double) : Bool :=
  match Binary.ofDouble x with
  | .finite .. => true
  | _ => false

/-- Whether a number is negative or a negative zero. -/
def signBit (x : Double) : Bool :=
  decide (Binary.signPlace ≤ x.bits.toNat)

/-- The number with its sign bit flipped. -/
def neg (x : Double) : Double := Binary.negate x

/-- The magnitude of a number; a NaN loses its sign. -/
def abs (x : Double) : Double :=
  Binary.toDouble (x.bits.toNat % Binary.signPlace)

/-- The magnitude of `x` with the sign of `y`. -/
def copySign (x y : Double) : Double :=
  Binary.toDouble (x.bits.toNat % Binary.signPlace + (if signBit y then Binary.signPlace else 0))

/-- The NaN of an invalid operation, with the sign bit set. -/
def invalid : Double := Binary.quietNaN true

/-- The order of two numbers by exact value; `none` when one is NaN. Both zeros are
equal. -/
def compare? (x y : Double) : Option Ordering :=
  match Binary.ofDouble x, Binary.ofDouble y with
  | .nan _, _ => none
  | _, .nan _ => none
  | .inf a, .inf b => some (if a = b then .eq else if a then .lt else .gt)
  | .inf a, .finite .. => some (if a then .lt else .gt)
  | .finite .., .inf b => some (if b then .gt else .lt)
  | .finite a m e, .finite b n f =>
    let k := min e f
    some (compare (Binary.scaled a m * 2 ^ (e - k).toNat) (Binary.scaled b n * 2 ^ (f - k).toNat))

/-- Equality of numbers: NaN equals nothing, the two zeros are equal. -/
def eq (x y : Double) : Bool := compare? x y == some .eq

/-- `x < y`; false when one is NaN. -/
def lt (x y : Double) : Bool := compare? x y == some .lt

/-- `x ≤ y`; false when one is NaN. -/
def le (x y : Double) : Bool := lt x y || eq x y

/-- The sum of two numbers. -/
def add (x y : Double) : Double :=
  match Binary.ofDouble x, Binary.ofDouble y with
  | .nan _, _ => x
  | _, .nan _ => y
  | .inf a, .inf b => if a = b then x else invalid
  | .inf _, _ => x
  | _, .inf _ => y
  | .finite a m e, .finite b n f =>
    let k := min e f
    let s := Binary.scaled a m * 2 ^ (e - k).toNat + Binary.scaled b n * 2 ^ (f - k).toNat
    if s = 0 then Binary.zero (a && b) else Binary.ofScaled s k

/-- The difference of two numbers: the sum with the negated subtrahend, but a NaN operand
is given back unchanged. -/
def sub (x y : Double) : Double :=
  if isNaN x then x else if isNaN y then y else add x (neg y)

/-- The product of two numbers. -/
def mul (x y : Double) : Double :=
  let sign := signBit x != signBit y
  match Binary.ofDouble x, Binary.ofDouble y with
  | .nan _, _ => x
  | _, .nan _ => y
  | .inf _, .finite _ n _ => if n = 0 then invalid else Binary.infinity sign
  | .finite _ m _, .inf _ => if m = 0 then invalid else Binary.infinity sign
  | .inf _, .inf _ => Binary.infinity sign
  | .finite _ m e, .finite _ n f =>
    if m = 0 ∨ n = 0 then Binary.zero sign
    else Binary.ofScaled (if sign then -((m * n : Nat) : Int) else ((m * n : Nat) : Int)) (e + f)

/-- The quotient of two numbers. -/
def div (x y : Double) : Double :=
  let sign := signBit x != signBit y
  match Binary.ofDouble x, Binary.ofDouble y with
  | .nan _, _ => x
  | _, .nan _ => y
  | .inf _, .inf _ => invalid
  | .inf _, .finite .. => Binary.infinity sign
  | .finite .., .inf _ => Binary.zero sign
  | .finite _ m e, .finite _ n f =>
    if n = 0 then (if m = 0 then invalid else Binary.infinity sign)
    else if m = 0 then Binary.zero sign
    else
      let d := e - f
      Binary.round sign (m * 2 ^ d.toNat) (n * 2 ^ (-d).toNat)

/-- The double nearest to an integer. -/
def ofInt (i : Int) : Double :=
  Binary.ofInt i

/-- The greatest integer not above a number, keeping the sign of a zero; NaN and the
infinities stay. -/
def floor (x : Double) : Double :=
  match Binary.ofDouble x with
  | .finite neg m e =>
    if e ≥ 0 then x
    else
      let q := m / 2 ^ (-e).toNat
      let exact := m % 2 ^ (-e).toNat = 0
      if neg then (if exact then x else ofInt (-((q + 1 : Nat) : Int)))
      else (if q = 0 then Binary.zero false else ofInt q)
  | _ => x

/-- The least integer not below a number. -/
def ceil (x : Double) : Double := neg (floor (neg x))

/-- The integer part of a number, toward zero, keeping the sign. -/
def trunc (x : Double) : Double :=
  if signBit x then neg (floor (neg x)) else floor x

/-- The remainder of `x` by `y` left by the quotient rounded toward zero: exact, with the sign
of `x`, also when it is zero. An infinite `x` or a zero `y` is invalid, and an infinite `y`
leaves `x`. -/
def rem (x y : Double) : Double :=
  match Binary.ofDouble x, Binary.ofDouble y with
  | .nan _, _ => x
  | _, .nan _ => y
  | .inf _, _ => invalid
  | .finite .., .inf _ => x
  | .finite a m e, .finite _ n f =>
    if n = 0 then invalid
    else
      -- both magnitudes on the grid of the smaller exponent
      let k := min e f
      let r := (m * 2 ^ (e - k).toNat) % (n * 2 ^ (f - k).toNat)
      if r = 0 then Binary.zero a else Binary.ofScaled (Binary.scaled a r) k

/-- The remainder of `x` by `y` made non-negative: `rem x y`, with `|y|` added when it is below
zero. -/
def remEuclid (x y : Double) : Double :=
  let r := rem x y
  if lt r (ofInt 0) then add r (abs y) else r

end Number

end ScriptLib
