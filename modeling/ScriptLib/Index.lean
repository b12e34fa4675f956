import ScriptLib.Error
import ScriptLib.Number.Word

/-!
# Indices and ranges

A negative index counts from the end: `-1` is the last element. `Index.normalize` gives
the position an index names inside a sequence of a length, if any; `Index.resolve` only
turns a negative index into one from the front, with no bounds. Indices are 64-bit words,
and `Index.next` steps past one as the word arithmetic does, wrapping past the largest.

`Index.checkRange` fails when a number lies outside inclusive bounds or is NaN.

`Index.range` is the progression `from, from + step, …` up to `to` inclusive. Without a
step it counts by one towards `to`. The count is `⌊(to - from) / step⌋ + 1` in doubles;
a negative quotient gives no values and a count above the limit is an error. Each value
is `from + i · step` in doubles, and the progression stops early if a value fails to move
past the one before it.
-/

-- Powers of numbers are the core ones, `NatPow`'s, whatever else is in scope.
attribute [local instance (high)] instPowNat

namespace ScriptLib

namespace Index

/-- The largest length an index can count from: lengths past it name no position. -/
def maxLength : Nat := 2 ^ (63 : Nat) - 1

/-- The position that an index names in a sequence of length `len`. -/
def normalize (index : Int) (len : Nat) : Option Nat :=
  let k := if index < 0 then len + index else index
  if len ≤ maxLength ∧ 0 ≤ k ∧ k < len then some k.toNat else none

/-- A negative index counted from the end, without bounds; left as it is when the length
is past `maxLength`. -/
def resolve (index : Int) (len : Nat) : Int :=
  if index < 0 ∧ len ≤ maxLength then len + index else index

/-- The index after `i`, as a 64-bit word: the step is taken without an overflow check, so
past the largest word it wraps around to the smallest. -/
def next (i : Int) : Int :=
  Number.wrap64 (i + 1)

/-- Fails unless `min ≤ value ≤ max`. -/
def checkRange (value min max : Double) (desc : String) : Except Error Unit :=
  if Number.lt value min || Number.lt max value || Number.isNaN value then
    .error ⟨.indexOutOfRange desc value min max, []⟩
  else .ok ()

/-- The values `from + i · step` for `i < count`, each in doubles, stopping before a
value equal to the one before it. -/
def progression (start step : Double) (count : Nat) : List Double :=
  go 0 none count
where
  go (i : Nat) (prev : Option Double) : Nat → List Double
    | 0 => []
    | n + 1 =>
      let v := Number.add start (Number.mul (Number.ofInt i) step)
      match prev with
      | some p => if Number.eq p v then [] else v :: go (i + 1) (some v) n
      | none => v :: go (i + 1) (some v) n

/-- The inclusive progression from `start` to `stop`. -/
def range (start stop : Double) (step : Option Double) (limit : Nat) : Except Error (List Double) := do
  if !Number.isFinite start || !Number.isFinite stop then
    throw ⟨.invalidArgument "range" "bounds must be finite numbers", []⟩
  let step ← match step with
    | none => pure (Number.ofInt (if Number.le start stop then 1 else -1))
    | some s =>
      if Number.eq s (Number.ofInt 0) || Number.isNaN s then
        throw ⟨.invalidArgument "range" "step must not be 0", []⟩
      else pure s
  let span := Number.div (Number.sub stop start) step
  if Number.lt span (Number.ofInt 0) then return []
  let count := Number.add (Number.floor span) (Number.ofInt 1)
  if Number.lt (Number.ofInt limit) count then
    throw ⟨.limitExceeded (.rangeLength limit), []⟩
  return progression start step (Number.toUInt64 count).toNat

end Index

end ScriptLib
