/-!
# Doubles

A double-precision number is kept as its 64-bit pattern, so that every pattern survives
as it is. The sign of a NaN matters: the total order of numbers puts a NaN with the sign
bit set before every other number and one without it after, and the operations choose it
by fixed rules. The platform's float conversions give every NaN one pattern, so they serve
only to reach the functions of the math library, whose NaN results are then signed by rule.
-/

namespace ScriptLib

/-- A double, as its bit pattern. -/
structure Double where
  bits : UInt64
  deriving DecidableEq, Inhabited, Repr

namespace Double

/-- The platform float of a double; a NaN loses its sign. -/
def toFloat (x : Double) : Float := Float.ofBits x.bits

/-- The double of a platform float. -/
def ofFloat (x : Float) : Double := ⟨x.toBits⟩

end Double

end ScriptLib
