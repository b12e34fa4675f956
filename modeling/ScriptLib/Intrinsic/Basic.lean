import ScriptLib.World
import ScriptLib.Text.Bytes
import ScriptLib.Text.Case

/-!
# Arguments of intrinsics

An intrinsic receives its arguments already bound to its parameters, defaults filled in;
a missing argument reads as nil. Numbers are taken from arguments by conversion (a text
is read as a number, a boolean is 1 or 0), and nil or a container where a number is
needed is a type mismatch. An offset argument is a conversion that may be absent: nil
and containers give none.
-/

namespace ScriptLib

namespace Intrinsic

/-- The argument at a position, nil when absent. -/
def argAt (args : List Value) (i : Nat) : Value :=
  args.getD i .nil

/-- A type mismatch against the kind of a value. -/
def typeError (expected : Kind) (v : Value) : Cause :=
  .typeMismatch expected v.kind

/-- The number of an argument. -/
def numberArg (args : List Value) (i : Nat) : Act Double :=
  let v := argAt args i
  match v.toNumber? with
  | some x => pure x
  | none => Act.fail (typeError .number v)

/-- The 64-bit integer of an argument. -/
def intArg (args : List Value) (i : Nat) : Act Int := do
  return Number.toInt64 (← numberArg args i)

/-- The 64-bit integer of an optional offset. -/
def offsetOf (v : Value) : Option Int :=
  v.toNumber?.map Number.toInt64

/-- A resolved offset clamped into `[0, len]`. -/
def clampIndex (i : Int) (len : Nat) : Nat :=
  if i ≤ 0 then 0 else min i.toNat len

/-- The number of a length or a position. -/
def natValue (n : Nat) : Value :=
  .num (Number.ofInt n)

/-- The result of cutting a text at byte offsets; a cut inside a character is a host
panic. -/
def ofCut {α : Type} : Except Nat α → Act α
  | .ok a => pure a
  | .error k => Act.fail (.panic s!"byte index {k} is not a char boundary")

/-- Whether a number is finite and has no fraction. -/
def isWhole (x : Double) : Bool :=
  Number.isFinite x && Number.eq (Number.trunc x) x

end Intrinsic

end ScriptLib
