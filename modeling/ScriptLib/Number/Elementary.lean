import ScriptLib.Number.Word

/-!
# Elementary functions

The square root, the logarithms and the trigonometric functions are those of the
platform's math library, reached through its floats. A NaN argument is given back as it
is. For a number outside a function's domain the library gives NaN, with a sign that
depends on the function: the sign bit is set for the sine, cosine and tangent of an
infinity and for the square root and natural logarithm of a negative number, and clear
for the arc sine and arc cosine past `±1` and for the decimal logarithm of a negative
number.
-/

namespace ScriptLib

namespace Number

/-- A function of the math library on doubles; `nanNeg` is the sign of the NaN it gives
for a number outside its domain. -/
def viaLibrary (f : Float → Float) (nanNeg : Bool) (x : Double) : Double :=
  if isNaN x then x
  else
    let r := f x.toFloat
    if r.isNaN then Binary.quietNaN nanNeg else Double.ofFloat r

/-- The square root. -/
def sqrt : Double → Double := viaLibrary Float.sqrt true

/-- The natural logarithm. -/
def ln : Double → Double := viaLibrary Float.log true

/-- The decimal logarithm. -/
def log10 : Double → Double := viaLibrary Float.log10 false

/-- The sine. -/
def sin : Double → Double := viaLibrary Float.sin true

/-- The cosine. -/
def cos : Double → Double := viaLibrary Float.cos true

/-- The tangent. -/
def tan : Double → Double := viaLibrary Float.tan true

/-- The arc sine. -/
def asin : Double → Double := viaLibrary Float.asin false

/-- The arc cosine. -/
def acos : Double → Double := viaLibrary Float.acos false

/-- The arc tangent. -/
def atan : Double → Double := viaLibrary Float.atan false

end Number

end ScriptLib
