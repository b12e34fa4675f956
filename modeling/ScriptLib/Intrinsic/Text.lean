import ScriptLib.Intrinsic.Collection
import ScriptLib.Regex.Search

/-!
# Text intrinsics

Case mapping, trimming and reading integers, and the two functions that take an optional
pattern: `split` and `replace`. Without `regexOptions` (nil) they match the delimiter or
the old text literally; with it, the text is a pattern compiled with the option letters
`i` (ignore case), `m` (multi-line anchors), `s` (the dot matches a line feed), `x`
(blanks and comments ignored) and `U` (lazy repetitions by default). `g` is accepted and
changes nothing, since both functions always act on every match; any other letter is an
error. An empty pattern is refused before the options are read.

`replace` works on lists and maps too: their elements (values, for a map) equal to the old
value are replaced in place, at most `maxCount` of them, and the receiver is returned.
`maxCount`, when given, must be a number from 1 to the largest double.
-/

-- Powers of numbers are the core ones, `NatPow`'s, whatever else is in scope.
attribute [local instance (high)] instPowNat

namespace ScriptLib

namespace Intrinsic

open Act

/-- The lowercase of a text; any other value as it is. -/
def lower (args : List Value) : Act Value :=
  pure <| match argAt args 0 with
    | .str s => .str (Text.lower s)
    | v => v

/-- The uppercase of a text; any other value as it is. -/
def upper (args : List Value) : Act Value :=
  pure <| match argAt args 0 with
    | .str s => .str (Text.upper s)
    | v => v

/-- A text without its leading and trailing blanks. -/
def trim (args : List Value) : Act Value :=
  match argAt args 0 with
  | .str s => pure (.str (Text.trim s))
  | v => fail (typeError .string v)

/-- A text that reads as a number, as that number truncated; anything else as it is. -/
def toInt (args : List Value) : Act Value :=
  pure <| match argAt args 0 with
    | .str s =>
      let x := Number.ofText s
      if Number.isNaN x then .str s else .num (Number.trunc x)
    | v => v

/-- The pattern options of an argument: none (a literal match) for nil, else its text. -/
def regexOptions (args : List Value) (i : Nat) : Act (Option String) := do
  match argAt args i with
  | .nil => return none
  | v => return some (← display v)

/-- Applies one option letter. -/
def applyOption (function : String) (o : Regex.Options) (c : Char) :
    Except Error Regex.Options :=
  match c with
  | 'i' => .ok { o with caseless := true }
  | 'm' => .ok { o with multiLine := true }
  | 's' => .ok { o with dotAll := true }
  | 'x' => .ok { o with ignoreSpace := true }
  | 'U' => .ok { o with swapGreed := true }
  | 'g' => .ok o
  | other => .error ⟨.invalidArgument function s!"invalid regex option '{other}'", []⟩

/-- Compiles a pattern with option letters, for a function. -/
def compileWith (function pattern options : String) : Except Error Regex.Program := do
  if pattern.isEmpty then throw ⟨.invalidArgument function "pattern must not be empty", []⟩
  let none : Regex.Options :=
    { caseless := false, multiLine := false, dotAll := false, ignoreSpace := false,
      swapGreed := false }
  let o ← options.toList.foldlM (applyOption function) none
  match Regex.Program.ofPattern pattern o with
  | .ok p => pure p
  | .error msg => throw ⟨.invalidArgument function msg, []⟩

/-- Splits a text at a delimiter or at the matches of a pattern; an empty literal
delimiter splits into characters. -/
def split (args : List Value) : Act Value := do
  let text ← match argAt args 0 with
    | .str s => pure s
    | v => fail (typeError .string v)
  let delimiter ← match argAt args 1 with
    | .nil => fail (.invalidArgument "split" "delimiter must not be null")
    | v => display v
  let parts ← match ← regexOptions args 2 with
    | some options => do
      let p ← ofResult (compileWith "split" delimiter options)
      pure (p.split text)
    | none =>
      if delimiter.isEmpty then pure (text.toList.map String.singleton)
      else pure ((Text.split text.toList delimiter.toList).map String.ofList)
  newList (parts.map Value.str)

/-- Replaces up to `limit` occurrences (all for none) of a text or of a pattern's matches. -/
def replaceMatches (text old new : String) (limit : Option Nat) (options : Option String) :
    Except Error String :=
  match options with
  | some o => do
    let p ← compileWith "replace" old o
    pure (p.replace text (limit.getD 0) new)
  | none =>
    if old.isEmpty then .error ⟨.invalidArgument "replace" "pattern must not be empty", []⟩
    else
      let k := limit.getD (text.length + 1)
      .ok (String.ofList (Text.replace text.toList old.toList new.toList k))

/-- The largest double. -/
def maxDouble : Double := Binary.toDouble (Binary.finiteBits false (2 ^ (53 : Nat) - 1) 971)

/-- Replaces elements equal to a value in a list or a map, or occurrences in a text. -/
def replace (args : List Value) : Act Value := do
  let recv := argAt args 0
  let old := argAt args 1
  let new := argAt args 2
  let limit ← match argAt args 3 with
    | .nil => pure none
    | count => do
      let n ← match count.toNumber? with
        | some x => pure x
        | none => fail (typeError .number count)
      ofResult (Index.checkRange n (Number.ofInt 1) maxDouble "maxCount")
      pure (some (Number.toUInt64 n).toNat)
  let h ← heap
  match recv with
  | .list l =>
    let k := limit.getD ((h.items l).size + 1)
    modifyHeap fun h => h.setItems l (replaceEqual h old new k (h.items l).toList).toArray
    return recv
  | .map m =>
    let t := h.table m
    let k := limit.getD (t.size + 1)
    modifyHeap fun h => h.setTable m (t.setValues (replaceEqual h old new k t.values))
    return recv
  | .str s =>
    if old.isNil then fail (.invalidArgument "replace" "pattern must not be null")
    let newText := if new.isNil then "" else h.display new
    let options ← regexOptions args 4
    let text ← ofResult (replaceMatches s (h.display old) newText limit options)
    return .str text
  | other => fail (typeError .collection other)

end Intrinsic

end ScriptLib
