import ScriptLib.Intrinsic.Basic
import ScriptLib.Number.Elementary

/-!
# Numeric intrinsics

The functions of one number return nil for nil and fail for other values without a
number. `abs`, `floor`, `ceil` and `sign` are exact; the trigonometric functions, square
root and logarithms are those of the platform's math library.

`round` rounds half away from zero to a number of decimal places between 0 and 15,
after adding the machine epsilon to the magnitude, so that `round(1.005, 2)` is `1.01`.

`bitwise` works on 64-bit two's complement integers (operands truncated and saturated),
with shift amounts taken modulo 64; `>>>` fills with zeros. Results go back to numbers
by rounding to nearest.
-/

-- Powers of numbers are the core ones, `NatPow`'s, whatever else is in scope.
attribute [local instance (high)] instPowNat

namespace ScriptLib

namespace Intrinsic

open Act

/-- Applies a function to the number of the first argument; nil stays nil. -/
def unary (f : Double → Double) (args : List Value) : Act Value := do
  let v := argAt args 0
  if v.isNil then return .nil
  match v.toNumber? with
  | some x => return .num (f x)
  | none => fail (typeError .number v)

/-- Zero and NaN stay; any other number becomes 1 or -1 by its sign. -/
def signum (x : Double) : Double :=
  if Number.eq x (Number.ofInt 0) || Number.isNaN x then x
  else Number.ofInt (if Number.signBit x then -1 else 1)

/-- The nearest integer, half away from zero, keeping the sign of a zero. -/
def roundHalfAway (x : Double) : Double :=
  match Binary.ofDouble x with
  | .finite neg m e =>
    if e ≥ 0 then x
    else
      let d := 2 ^ (-e).toNat
      let q := m / d
      let q := if 2 * (m % d) ≥ d then q + 1 else q
      if q = 0 then Binary.zero neg
      else Number.ofInt (if neg then -(q : Int) else q)
  | _ => x

/-- The machine epsilon, `2 ^ -52`. -/
def epsilon : Double := Binary.round false 1 (2 ^ (52 : Nat))

/-- The ratio of a circle's circumference to its diameter. -/
def pi : Double := Number.ofDecimal false 3141592653589793 (-15)

/-- Rounds to a number of decimal places. -/
def round (args : List Value) : Act Value := do
  let v := argAt args 0
  if v.isNil then return .nil
  let n ← match v.toNumber? with
    | some x => pure x
    | none => fail (typeError .number v)
  let places ← numberArg args 1
  ofResult (Index.checkRange places (Number.ofInt 0) (Number.ofInt 15) "decimalPlaces")
  let factor := Number.ofInt (10 ^ (Number.toInt64 places).toNat)
  let scaled := Number.mul (Number.add (Number.abs n) epsilon) factor
  if !Number.isFinite scaled then return .num n
  return .num (Number.copySign (Number.div (roundHalfAway scaled) factor) n)

/-- The logarithm to a base; base 10 by the decimal logarithm. -/
def log (args : List Value) : Act Value := do
  let v := argAt args 0
  if v.isNil then return .nil
  let n ← match v.toNumber? with
    | some x => pure x
    | none => fail (typeError .number v)
  let base ← numberArg args 1
  if Number.le base (Number.ofInt 0) || Number.eq base (Number.ofInt 1) ||
      Number.isNaN base then
    fail (.invalidArgument "log" s!"invalid base {Number.diagnostic base}")
  if Number.eq base (Number.ofInt 10) then return .num (Number.log10 n)
  return .num (Number.div (Number.ln n) (Number.ln base))

/-- A 64-bit two's complement word as a natural number. -/
def word (a : Int) : Nat := (a % 2 ^ (64 : Nat)).toNat

/-- Bitwise operations on 64-bit integers. -/
def bitwise (args : List Value) : Act Value := do
  let op ← display (argAt args 0)
  let a := Number.toInt64 (← numberArg args 1)
  if op = "~" then return .num (Number.ofInt (-a - 1))
  if not (["&", "|", "^", "<<", ">>", ">>>"].contains op) then return .nil
  let b := Number.toInt64 (← numberArg args 2)
  let shift := (b % 64).toNat
  let r : Int :=
    if op = "&" then Number.wrap64 (word a &&& word b)
    else if op = "|" then Number.wrap64 (word a ||| word b)
    else if op = "^" then Number.wrap64 (word a ^^^ word b)
    else if op = "<<" then Number.wrap64 (a * 2 ^ shift)
    else if op = ">>" then a / 2 ^ shift
    else ((word a / 2 ^ shift : Nat) : Int)
  return .num (Number.ofInt r)

end Intrinsic

end ScriptLib
