import ScriptLib.Number.Shortest

/-!
# Text of a number

A finite non-zero number is written with its shortest decimal, positionally: all the
digits of the integer part, then a point and the fraction digits if there are any; never an
exponent, so `1e300` is written with 300 zeros. What is written for the other doubles
is a matter of style: the script's own text writes `NaN`, `Infinity` and `0` for both
zeros, while diagnostics keep the sign of zero and write `inf`.
-/

namespace ScriptLib

/-- How the doubles without digits are written. -/
structure NumberStyle where
  nan : String
  infinity : String
  /-- Whether a negative zero is written `-0` rather than `0`. -/
  signedZero : Bool
  deriving Repr, DecidableEq

namespace NumberStyle

/-- The script's own text of numbers. -/
def script : NumberStyle := ⟨"NaN", "Infinity", false⟩

/-- The text of numbers inside error messages. -/
def diagnostic : NumberStyle := ⟨"NaN", "inf", true⟩

end NumberStyle

namespace Decimal

/-- `n` zeros. -/
def zeros (n : Nat) : String :=
  String.ofList (List.replicate n '0')

/-- Positional text of a decimal: no exponent, no trailing point. -/
def positional (d : Decimal) : String :=
  let ds := toString d.digits
  if d.exp ≥ 0 then ds ++ zeros d.exp.toNat
  else
    let frac := (-d.exp).toNat
    let n := ds.length
    if frac < n then
      String.ofList (ds.toList.take (n - frac)) ++ "." ++ String.ofList (ds.toList.drop (n - frac))
    else "0." ++ zeros (frac - n) ++ ds

/-- Text `digits e exp`, readable as a number wherever exponents are. -/
def scientific (d : Decimal) : String :=
  toString d.digits ++ "e" ++ toString d.exp

end Decimal

/-- The shortest decimal of a finite non-zero double's magnitude, and its sign. -/
def Decimal.ofDouble? (x : Double) : Option (Bool × Decimal) :=
  match Binary.ofDouble x with
  | .finite neg m e => if m = 0 then none else some (neg, Decimal.shortest m e)
  | _ => none

/-- The text of a number in a style. -/
def NumberStyle.render (st : NumberStyle) (x : Double) : String :=
  match Binary.ofDouble x with
  | .nan _ => st.nan
  | .inf neg => (if neg then "-" else "") ++ st.infinity
  | .finite neg m e =>
    if m = 0 then (if neg ∧ st.signedZero then "-0" else "0")
    else (if neg then "-" else "") ++ (Decimal.shortest m e).positional

namespace Number

/-- The script's text of a number. -/
def format (x : Double) : String :=
  NumberStyle.script.render x

/-- The text of a number inside an error message. -/
def diagnostic (x : Double) : String :=
  NumberStyle.diagnostic.render x

end Number

end ScriptLib
