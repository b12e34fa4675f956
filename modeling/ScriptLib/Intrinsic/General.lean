import ScriptLib.Intrinsic.Basic

/-!
# General intrinsics

Conversions (`str`, `val`, `char`, `code`), output (`print`), hashing (`hash`), ranges
(`range`), random numbers (`rnd`) and the two suspending functions (`wait`, `yield`).

`rnd` with a truthy seed draws from the seeded stream of the seed's canonical text, so
`1` and `"1"` share a stream; otherwise it draws from the unseeded source. `range` takes
its ends and step as numbers only: a text is not converted.
-/

-- Powers of numbers are the core ones, `NatPow`'s, whatever else is in scope.
attribute [local instance (high)] instPowNat

namespace ScriptLib

namespace Intrinsic

open Act

/-- Writes the canonical text of a value as one line of output. -/
def print (args : List Value) : Act Value := do
  let text ← display (argAt args 0)
  modify fun w => { w with output := w.output.push text }
  return .nil

/-- The canonical text of a value. -/
def str (args : List Value) : Act Value := do
  return .str (← display (argAt args 0))

/-- A number, or a text that reads as a number, as a number; another text as itself. -/
def val (args : List Value) : Act Value := do
  return match argAt args 0 with
    | .num x => .num x
    | .str s =>
      let x := Number.ofText s
      if Number.isNaN x then .str s else .num x
    | _ => .nil

/-- The deep hash of a value to a depth, the configured one by default. -/
def hash (args : List Value) : Act Value := do
  let depth ← match argAt args 1 with
    | .nil => pure (← limits).hashDepth
    | v => match v.toNumber? with
      | some x => pure (Number.saturate (-2 ^ (31 : Nat)) (2 ^ (31 : Nat) - 1) x)
      | none => fail (typeError .number v)
  let h ← heap
  return .num (Number.ofInt (h.hash (argAt args 0) depth))

/-- A number argument that must already be a number. -/
def exactNumber (v : Value) : Act Double :=
  match v with
  | .num x => pure x
  | _ => fail (typeError .number v)

/-- The inclusive progression between two numbers, as a new list. -/
def range (args : List Value) : Act Value := do
  let start ← exactNumber (argAt args 0)
  let stop ← exactNumber (argAt args 1)
  let step ← match argAt args 2 with
    | .nil => pure none
    | v => some <$> exactNumber v
  let xs ← ofResult (Index.range start stop step (← limits).maxRange)
  newList (xs.map Value.num)

/-- A number in `[0, 1)` from a seeded stream or from the unseeded source. -/
def rnd (args : List Value) : Act Value := do
  let seed := argAt args 0
  let w ← get
  if w.heap.truthy seed then
    let (x, seeds) := w.seeds.next (w.heap.display seed)
    set { w with seeds := seeds }
    return .num x
  else
    let (x, g) := w.source.nextUnit
    set { w with source := g }
    return .num x

/-- The character of a code point; nil for 0, for nil and for a code point that names
no character. -/
def char (args : List Value) : Act Value := do
  let v := argAt args 0
  if v.isNil then return .nil
  let code ← match v.toInt? with
    | some i => pure i
    | none => fail (typeError .number v)
  if code = 0 then return .nil
  if code < 0 ∨ code ≥ 2 ^ (32 : Nat) then return .nil
  let n := code.toNat
  if n.isValidChar then return .str (String.singleton (Char.ofNat n)) else return .nil

/-- The code point of the first character of a value's canonical text. -/
def code (args : List Value) : Act Value := do
  let v := argAt args 0
  if v.isNil then fail (.invalidArgument "code" "value must not be null")
  let text ← display v
  return match text.toList with
    | c :: _ => natValue c.toNat
    | [] => .nil

/-- Why a delay has no timer span: it is negative, or NaN or `2 ^ 64` seconds or more. -/
def timerFault? (delay : Double) : Option String :=
  if Number.lt delay (Number.ofInt 0) then
    some "cannot convert float seconds to Duration: value is negative"
  else if Number.isNaN delay || Number.le (Number.ofInt (2 ^ (64 : Nat))) delay then
    some "cannot convert float seconds to Duration: value is either too big or NaN"
  else none

/-- Waits for a number of seconds within the configured window; time does not pass for
the script, so only the checks remain. A delay that passes the window but has no timer
span stops the host. -/
def wait (args : List Value) : Act Value := do
  let delay ← numberArg args 0
  let lim ← limits
  ofResult (Index.checkRange delay lim.waitMin lim.waitMax "delay")
  if let some m := timerFault? delay then fail (.panic m)
  return .nil

/-- Gives the scheduler a turn. -/
def yieldTurn (_ : List Value) : Act Value :=
  pure .nil

end Intrinsic

end ScriptLib
