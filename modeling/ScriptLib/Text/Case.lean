import ScriptLib.Text.CaseData

/-!
# Lowercase and uppercase of texts

Each character maps to its full Unicode lowercase or uppercase, which may be several
characters (`ß` to `SS`, `İ` to `i̇`). The one mapping that depends on context is the
capital sigma: it lowercases to the final form `ς` when a cased character precedes it
and none follows it, case-ignorable characters skipped on both sides; otherwise to `σ`.
-/

namespace ScriptLib

namespace Text

/-- The delta of the run holding a code point, found by bisection of sorted runs. -/
def runDelta (runs : Array (Nat × Nat × Nat × Int)) (cp : Nat) : Option Int :=
  go 0 runs.size 24
where
  go (lo hi : Nat) : Nat → Option Int
    | 0 => none
    | fuel + 1 =>
      if hi ≤ lo then none
      else
        let mid := (lo + hi) / 2
        let (a, b, stride, d) := runs.getD mid (0, 0, 1, 0)
        if cp < a then go lo mid fuel
        else if b < cp then go (mid + 1) hi fuel
        else if (cp - a) % stride = 0 then some d else none

/-- A character through a table of runs and a table of longer mappings. -/
def mapChar (runs : Array (Nat × Nat × Nat × Int)) (multi : Array (Nat × List Nat)) (c : Char) :
    List Char :=
  match multi.find? (·.1 == c.toNat) with
  | some (_, cs) => cs.map Char.ofNat
  | none =>
    match runDelta runs c.toNat with
    | some d => [Char.ofNat (c.toNat + d).toNat]
    | none => [c]

/-- The full lowercase of a character other than the capital sigma. -/
def lowerChar (c : Char) : List Char :=
  if 'A' ≤ c ∧ c ≤ 'Z' then [Char.ofNat (c.toNat + 32)]
  else if c.toNat < 128 then [c]
  else mapChar CaseData.lowerRuns CaseData.lowerMulti c

/-- The full uppercase of a character. -/
def upperChar (c : Char) : List Char :=
  if 'a' ≤ c ∧ c ≤ 'z' then [Char.ofNat (c.toNat - 32)]
  else if c.toNat < 128 then [c]
  else mapChar CaseData.upperRuns CaseData.upperMulti c

/-- Whether a character is Case_Ignorable. -/
def isCaseIgnorable (c : Char) : Bool :=
  Compact.inRanges CaseData.caseIgnorable c.toNat

/-- Whether a character that is not Case_Ignorable is Cased. -/
def isCased (c : Char) : Bool :=
  Compact.inRanges CaseData.cased c.toNat

/-- Whether the first character that is not case-ignorable is cased. -/
def casedAfterIgnorable (cs : List Char) : Bool :=
  match cs.dropWhile isCaseIgnorable with
  | c :: _ => isCased c
  | [] => false

/-- The lowercase of the capital sigma between the reversed characters before it and the
characters after it. -/
def sigmaLower (before after : List Char) : Char :=
  if casedAfterIgnorable before && !casedAfterIgnorable after then 'ς' else 'σ'

/-- Lowercase of the characters `rest`, with `before` the reversed characters already
read and `acc` the reversed output. -/
def lowerGo (before acc : List Char) : List Char → List Char
  | [] => acc.reverse
  | c :: rest =>
    let out := if c = 'Σ' then [sigmaLower before rest] else lowerChar c
    lowerGo (c :: before) (out.reverse ++ acc) rest

/-- The full lowercase of a text. -/
def lower (s : String) : String :=
  String.ofList (lowerGo [] [] s.toList)

/-- The full uppercase of a text. -/
def upper (s : String) : String :=
  String.ofList (s.toList.flatMap upperChar)

end Text

end ScriptLib
