import ScriptLib.Number.Binary

/-!
# Shortest decimal of a double

Every positive finite double `v = m · 2 ^ e` owns an interval of reals that read back as
`v`: half the gap to each neighbour on either side, the ends included when `m` is even.
The shortest decimal of `v` is the decimal with the fewest significant digits in that
interval; of two such decimals on one grid the nearer to `v` is taken, and an exact tie
goes to the larger.

The search walks the grids `10 ^ p` from the place of the leading digit of `v` downwards.
On each grid only the two neighbours of `v` need testing: when any point of a grid lies
in the interval, which holds `v`, one of those two does. A double has at most 17
significant digits, so 17 grids always suffice.
-/

-- Powers of numbers are the core ones, `NatPow`'s, whatever else is in scope.
attribute [local instance (high)] instPowNat

namespace ScriptLib

/-- A positive decimal `digits · 10 ^ exp`. -/
structure Decimal where
  digits : Nat
  exp : Int
  deriving Repr, DecidableEq, Inhabited

namespace Decimal

/-- Number of decimal digits of a natural number, at least one. -/
def digitCount (n : Nat) : Nat :=
  (Nat.toDigits 10 n).length

/-- `10 ^ n`. -/
def pow10 (n : Nat) : Nat := 10 ^ n

/-- The same decimal with its trailing zero digits moved into the exponent. -/
def normalize (d : Decimal) : Decimal :=
  go d.digits.log2.succ d
where
  go : Nat → Decimal → Decimal
    | 0, d => d
    | fuel + 1, d =>
      if d.digits ≠ 0 ∧ d.digits % 10 = 0 then go fuel ⟨d.digits / 10, d.exp + 1⟩ else d

end Decimal

namespace Shortest

/-- A rational `num / den` scaled so that the grid comparisons stay in `Nat`: a point
`c · 10 ^ p` is compared with `x · 2 ^ s` as `c · 10 ^ p⁺ · 2 ^ s⁻` against
`x · 2 ^ s⁺ · 10 ^ p⁻`. -/
def compareGrid (c : Nat) (p : Int) (x : Nat) (s : Int) : Ordering :=
  compare (c * Decimal.pow10 p.toNat * 2 ^ (-s).toNat) (x * 2 ^ s.toNat * Decimal.pow10 (-p).toNat)

/-- `⌊x · 2 ^ s / 10 ^ p⌋`. -/
def gridFloor (x : Nat) (s p : Int) : Nat :=
  (x * 2 ^ s.toNat * Decimal.pow10 (-p).toNat) / (Decimal.pow10 p.toNat * 2 ^ (-s).toNat)

/-- `⌊log₁₀ (m · 2 ^ e)⌋` for positive `m`. -/
def leadingPlace (m : Nat) (e : Int) : Int :=
  if e ≥ 0 then (Decimal.digitCount (m * 2 ^ e.toNat) : Int) - 1
  else
    let q := 2 ^ (-e).toNat
    if q ≤ m then (Decimal.digitCount (m / q) : Int) - 1
    else
      -- smallest `k` with `m · 10 ^ k ≥ q` is the digit count of `⌈q / m⌉ - 1`
      let c := (q + m - 1) / m
      Int.neg (Decimal.digitCount (c - 1))

/-- The interval that reads back as `m · 2 ^ e`, in units of `2 ^ (e - 2)`: the value is
`4m`, the ends are `4m - below` and `4m + 2`. Below the least mantissa of a binade the
gap is half as wide, except among the subnormals. -/
def below (m : Nat) (e : Int) : Nat :=
  if m = Binary.fractionCount ∧ e > Binary.minExp then 1 else 2

/-- Whether `c · 10 ^ p` reads back as `m · 2 ^ e`. -/
def inInterval (m : Nat) (e : Int) (c : Nat) (p : Int) : Bool :=
  let s := e - 2
  let lo := compareGrid c p (4 * m - below m e) s
  let hi := compareGrid c p (4 * m + 2) s
  if m % 2 = 0 then lo != .lt && hi != .gt
  else lo == .gt && hi == .lt

/-- The decimal on the grid `10 ^ p` that reads back as `m · 2 ^ e`, if the grid has one:
the nearer of the two neighbours, the larger on a tie. -/
def onGrid (m : Nat) (e : Int) (p : Int) : Option Decimal :=
  let s := e - 2
  let lo := gridFloor (4 * m) s p
  let hi := lo + 1
  let inLo := inInterval m e lo p
  let inHi := inInterval m e hi p
  if inLo ∧ inHi then
    -- compare `2v` with the midpoint `(2 lo + 1) · 10 ^ p`
    match compareGrid (2 * lo + 1) p (8 * m) s with
    | .gt => some ⟨lo, p⟩
    | _ => some ⟨hi, p⟩
  else if inLo then some ⟨lo, p⟩
  else if inHi then some ⟨hi, p⟩
  else none

/-- Grids from `10 ^ top` downwards, `fuel` of them. -/
def search (m : Nat) (e : Int) : Nat → Int → Option Decimal
  | 0, _ => none
  | fuel + 1, p =>
    match onGrid m e p with
    | some d => some d
    | none => search m e fuel (p - 1)

end Shortest

/-- The shortest decimal that reads back as the positive double `m · 2 ^ e`. The grid
with one unit in the last of 17 digits always holds the nearer neighbour, so the search
ends there at the latest; the value itself is the answer of last resort. -/
def Decimal.shortest (m : Nat) (e : Int) : Decimal :=
  let top := Shortest.leadingPlace m e
  match Shortest.search m e 17 top with
  | some d => d.normalize
  | none => (Decimal.normalize ⟨m * 2 ^ e.toNat * 5 ^ (-e).toNat, min e 0⟩)

end ScriptLib
