import ScriptLib.Number.Word

/-!
# UTF-16 code units of a text

Hashes of texts run over UTF-16 code units: a character below `0x10000` is one unit, any
other the two units of its surrogate pair. The text hash is the polynomial
`h ↦ 31 · h + unit` from 0, kept in 32-bit words.
-/

namespace ScriptLib

namespace Text

/-- The UTF-16 code units of one character. -/
def charUnits (c : Char) : List Nat :=
  let n := c.toNat
  if n < 0x10000 then [n]
  else
    let m := n - 0x10000
    [0xD800 + m / 0x400, 0xDC00 + m % 0x400]

/-- The UTF-16 code units of a text. -/
def units (s : String) : List Nat :=
  s.toList.flatMap charUnits

/-- The 32-bit polynomial hash of a text over its UTF-16 units. -/
def hash (s : String) : Int :=
  (units s).foldl (fun (h : Int) (u : Nat) => Number.wrap32 (31 * h + u)) 0

end Text

end ScriptLib
