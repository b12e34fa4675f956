import ScriptLib.Number.Text
import ScriptLib.Text.Blank

/-!
# Reading number text

Two readers. `Number.readFloat` reads a floating literal: an optional sign, then either a
word for infinity or NaN in any letter case, or a decimal literal (digits, at most one
point, at least one digit, an optional exponent `e` or `E` with an optional sign and at
least one digit), rounded to the nearest double.

`Number.ofText` is the script's reading of a text as a number. It trims blanks, takes off
one leading minus or else one leading plus, and then accepts an unsigned radix literal
(`0x`, `0b`, `0o` in either case, digits of that radix below `2 ^ 64`), the word
`Infinity`, or a text of digits, points, exponent letters and signs that the floating
reader accepts. Everything else is NaN, and so is a radix literal after a sign. A text
of those characters that the floating reader refuses is NaN too, but it still takes the
sign: after a minus it is the NaN with the sign bit set.
-/

-- Powers of numbers are the core ones, `NatPow`'s, whatever else is in scope.
attribute [local instance (high)] instPowNat

namespace ScriptLib

namespace Number

/-- The quiet NaN without the sign bit, the NaN of a text that is no number. -/
def nan : Double := Binary.quietNaN false

/-- Positive infinity. -/
def infinity : Double := Binary.infinity false

/-- The leading ASCII digits of a text and the rest. -/
def spanDigits (cs : List Char) : List Char × List Char :=
  (cs.takeWhile Char.isDigit, cs.dropWhile Char.isDigit)

/-- The value of a list of decimal digits. -/
def digitsValue (ds : List Char) : Nat :=
  ds.foldl (fun n c => 10 * n + (c.toNat - '0'.toNat)) 0

/-- The value of exponent digits; it stops growing once past `0x10000`, far beyond where
every double has overflowed or vanished. -/
def exponentValue (ds : List Char) : Nat :=
  ds.foldl (fun n c => if n < 0x10000 then 10 * n + (c.toNat - '0'.toNat) else n) 0

/-- The exponent part of a decimal literal, after its letter: an optional sign and at
least one digit, and nothing after them. -/
def readExponent (cs : List Char) : Option Int :=
  let (neg, rest) := match cs with
    | '-' :: t => (true, t)
    | '+' :: t => (false, t)
    | t => (false, t)
  match spanDigits rest with
  | ([], _) => none
  | (ds, []) => some (if neg then -(exponentValue ds : Int) else (exponentValue ds : Int))
  | (_, _ :: _) => none

/-- An unsigned decimal literal as `(mantissa, exponent)`, its value
`mantissa · 10 ^ exponent`. -/
def readDecimal (cs : List Char) : Option (Nat × Int) :=
  let (whole, afterWhole) := spanDigits cs
  let (frac, rest) := match afterWhole with
    | '.' :: t => spanDigits t
    | t => ([], t)
  if whole.isEmpty ∧ frac.isEmpty then none
  else
    let mant := digitsValue (whole ++ frac)
    let shift : Int := -(frac.length : Int)
    match rest with
    | [] => some (mant, shift)
    | c :: t =>
      if c = 'e' ∨ c = 'E' then (readExponent t).map fun x => (mant, shift + x)
      else none

/-- The double nearest to `± mant · 10 ^ exp`. Exponents far outside the range of doubles
give an infinity or a zero at once. -/
def ofDecimal (neg : Bool) (mant : Nat) (exp : Int) : Double :=
  if mant = 0 then Binary.zero neg
  else
    let top := exp + Decimal.digitCount mant
    if top > 310 then Binary.infinity neg
    else if top < -326 then Binary.zero neg
    else if exp ≥ 0 then Binary.round neg (mant * 10 ^ exp.toNat) 1
    else Binary.round neg mant (10 ^ (-exp).toNat)

/-- Whether a text is a word, letter case aside. -/
def isWord (cs : List Char) (w : String) : Bool :=
  cs.map Char.toLower == w.toList

/-- A floating literal rounded to the nearest double. -/
def readFloat (cs : List Char) : Option Double :=
  let (neg, rest) := match cs with
    | '-' :: t => (true, t)
    | '+' :: t => (false, t)
    | t => (false, t)
  if rest.isEmpty then none
  else match readDecimal rest with
    | some (mant, exp) => some (ofDecimal neg mant exp)
    | none =>
      if isWord rest "inf" ∨ isWord rest "infinity" then some (Binary.infinity neg)
      else if isWord rest "nan" then some (if neg then -nan else nan)
      else none

/-- The value of a digit in a radix up to 36. -/
def digitIn (radix : Nat) (c : Char) : Option Nat :=
  let v :=
    if c.isDigit then c.toNat - '0'.toNat
    else if 'a' ≤ c ∧ c ≤ 'z' then c.toNat - 'a'.toNat + 10
    else if 'A' ≤ c ∧ c ≤ 'Z' then c.toNat - 'A'.toNat + 10
    else radix
  if v < radix then some v else none

/-- An unsigned integer in a radix: an optional plus, at least one digit, a value below
`2 ^ 64`. -/
def readRadix (radix : Nat) (cs : List Char) : Option Nat :=
  let ds := match cs with
    | '+' :: t@(_ :: _) => t
    | t => t
  if ds.isEmpty then none
  else
    let value := ds.foldlM (fun n c => (digitIn radix c).map fun d => radix * n + d) 0
    match value with
    | some n => if n < 2 ^ (64 : Nat) then some n else none
    | none => none

/-- The radix of a leading `0x`, `0b` or `0o`, in either case, and the text after it. -/
def radixPrefix : List Char → Option (Nat × List Char)
  | '0' :: 'x' :: t | '0' :: 'X' :: t => some (16, t)
  | '0' :: 'b' :: t | '0' :: 'B' :: t => some (2, t)
  | '0' :: 'o' :: t | '0' :: 'O' :: t => some (8, t)
  | _ => none

/-- The characters a decimal text may consist of. -/
def isDecimalChar (c : Char) : Bool :=
  c.isDigit || c == '.' || c == 'e' || c == 'E' || c == '+' || c == '-'

/-- The script's number of a text; NaN for a text that is not a number. -/
def ofText (text : String) : Double :=
  let t := (Text.trim text).toList
  let (neg, unsigned) := match t with
    | '-' :: r => (true, r)
    | '+' :: r => (false, r)
    | r => (false, r)
  let magnitude : Option Double :=
    match radixPrefix unsigned with
    | some (radix, ds) =>
      if unsigned.length ≠ t.length then none
      else (readRadix radix ds).map fun n => Binary.ofInt n
    | none =>
      if unsigned == "Infinity".toList then some infinity
      else if !unsigned.isEmpty && unsigned.all isDecimalChar then
        some ((readFloat unsigned).getD nan)
      else none
  match magnitude with
  | some x => if neg then -x else x
  | none => nan

end Number

end ScriptLib
