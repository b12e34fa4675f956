import ScriptLib.Number.Arith

/-!
# Numbers as machine words

The script computes with doubles but hands some of them to word arithmetic:

* a cast to a 64-bit, an unsigned or a 32-bit word takes the exact integer part of the double
  and saturates it at the ends of the range, NaN giving 0;
* the 32-bit word of a hash wraps around instead: the integer part is reduced modulo `2 ^ 32`
  in doubles, moved into `[-2 ^ 31, 2 ^ 31)` and then cast, and NaN and the infinities give 0.

Integers go back to doubles by rounding to nearest, a tie to even.
-/

-- Powers of numbers are the core ones, `NatPow`'s, whatever else is in scope.
attribute [local instance (high)] instPowNat

namespace ScriptLib

namespace Number

/-- `x` wrapped into `[-2 ^ 31, 2 ^ 31)`, as a 32-bit word. -/
def wrap32 (x : Int) : Int := x.bmod (2 ^ (32 : Nat))

/-- `x` wrapped into `[-2 ^ 63, 2 ^ 63)`, as a 64-bit word. -/
def wrap64 (x : Int) : Int := x.bmod (2 ^ (64 : Nat))

/-- The integer part of a finite number, rounded toward zero; `none` for NaN and the
infinities. -/
def trunc? (x : Double) : Option Int :=
  match Binary.ofDouble x with
  | .finite neg m e =>
    let t : Nat := if e ≥ 0 then m * 2 ^ e.toNat else m / 2 ^ (-e).toNat
    some (if neg then -(t : Int) else t)
  | _ => none

/-- The integer part of a number clamped to `[lo, hi]`; NaN gives 0 and the infinities
the ends. -/
def saturate (lo hi : Int) (x : Double) : Int :=
  match Binary.ofDouble x with
  | .nan _ => 0
  | .inf neg => if neg then lo else hi
  | .finite .. => max lo (min hi ((trunc? x).getD 0))

/-- A number cast to a 32-bit word: its integer part clamped to `[-2 ^ 31, 2 ^ 31)`, NaN
giving 0. -/
def castInt32 (x : Double) : Int :=
  saturate (-2147483648) 2147483647 x

/-- The 32-bit word of a number, computed in doubles: the integer part is reduced modulo
`2 ^ 32` into `[0, 2 ^ 32)`, the upper half is taken down by `2 ^ 32`, and the result is cast
to a 32-bit word. NaN and the infinities give 0. -/
def toInt32 (x : Double) : Int :=
  if isFinite x then
    let wrapped := remEuclid (trunc x) (ofInt 4294967296)
    if le (ofInt 2147483648) wrapped then castInt32 (sub wrapped (ofInt 4294967296))
    else castInt32 wrapped
  else 0

/-- The signed 64-bit integer of a number. -/
def toInt64 (x : Double) : Int :=
  saturate (-2 ^ (63 : Nat)) (2 ^ (63 : Nat) - 1) x

/-- The unsigned 64-bit integer of a number. -/
def toUInt64 (x : Double) : Int :=
  saturate 0 (2 ^ (64 : Nat) - 1) x

/-- The double nearest to `c + x` for an integer `c`: the exact sum, rounded once. An
exact zero sum is a positive zero. -/
def addInt (c : Int) (x : Double) : Double :=
  match Binary.ofDouble x with
  | .nan _ => x
  | .inf _ => x
  | .finite neg m e =>
    let v : Int := if neg then -(m : Int) else m
    if e ≥ 0 then ofInt (c + v * 2 ^ e.toNat)
    else
      let den : Nat := 2 ^ (-e).toNat
      let num := c * den + v
      if num = 0 then Binary.zero false
      else Binary.round (num < 0) num.natAbs den

/-- Mixing a number into a running 32-bit hash: `offset · 31 + value`, the product in
32-bit words and the sum in doubles, then the 32-bit word of the sum. Zero mixes to zero. -/
def mixHash (value : Double) (offset : Int) : Int :=
  match Binary.ofDouble value with
  | .finite _ 0 _ => 0
  | _ => toInt32 (addInt (wrap32 (offset * 32) - offset) value)

end Number

end ScriptLib
