import ScriptLib.Regex.Core
import ScriptLib.Regex.Utf8

/-!
# The normal form of a core

Before a core is built into an automaton it is put in a normal form, through constructors
that simplify as they build:

* a class of one code point is the literal of its bytes, and a literal of no bytes is the
  empty pattern;
* a concatenation flattens nested concatenations, merges adjacent literals and drops
  empty items; with no item left it is empty, with one it is that item;
* an alternation flattens nested alternations; with no branch it is the class that
  matches nothing, with one it is that branch; branches that are all literals of one
  code point, or all classes, become one class; and branches that are all concatenations
  with a common first run of items become that run followed by the alternation of the
  rests;
* a repetition of something that only matches the empty text repeats at most once, and
  the repetitions `{0}` and `{1}` are the empty pattern and the body.

The size of the automaton depends on this form only, so it is what the size limit of
patterns is measured on. Matching runs on it too. Lifting a common run out of the
branches changes which match is preferred: `a*a|a*b` is `a*[ab]`, so it matches all of
`aab` where its first branch alone would stop at `aa`.
-/

namespace ScriptLib

namespace Regex

/-- A core in normal form. -/
inductive Normal where
  | empty
  /-- the bytes of one or more code points -/
  | literal (bytes : List Nat)
  /-- one code point of sorted, separate ranges; with no range, nothing matches -/
  | cls (ranges : List (Nat × Nat))
  | look (l : Look)
  | rep (body : Normal) (min : Nat) (max : Option Nat) (greedy : Bool)
  | capture (index : Nat) (body : Normal)
  /-- two or more items in a row -/
  | concat (items : List Normal)
  /-- two or more branches, the first preferred -/
  | alt (items : List Normal)
  deriving Repr, Inhabited

namespace Normal

mutual

/-- Whether two normal cores are the same. -/
def same : Normal → Normal → Bool
  | .empty, .empty => true
  | .literal a, .literal b => a == b
  | .cls a, .cls b => a == b
  | .look a, .look b => a == b
  | .rep a m n g, .rep b m' n' g' => m == m' && n == n' && g == g' && same a b
  | .capture i a, .capture j b => i == j && same a b
  | .concat as, .concat bs => sameList as bs
  | .alt as, .alt bs => sameList as bs
  | _, _ => false

/-- Whether two lists of normal cores are the same, item by item. -/
def sameList : List Normal → List Normal → Bool
  | [], [] => true
  | a :: as, b :: bs => same a b && sameList as bs
  | _, _ => false

end

mutual

/-- The least number of bytes a core matches; none when it cannot match, or when a
branch of an alternation inside it cannot. -/
def minLen : Normal → Option Nat
  | .empty => some 0
  | .literal bs => some bs.length
  | .cls [] => none
  | .cls ((a, _) :: _) => some (utf8Length a)
  | .look _ => some 0
  | .rep b lo _ _ => b.minLen.map (· * lo)
  | .capture _ b => b.minLen
  | .concat xs => minLenSum xs
  | .alt xs => minLenLeast xs

/-- The least length of items in a row. -/
def minLenSum : List Normal → Option Nat
  | [] => some 0
  | x :: xs => do
    let a ← x.minLen
    let b ← minLenSum xs
    pure (a + b)

/-- The least length over branches, none as soon as one branch has none. -/
def minLenLeast : List Normal → Option Nat
  | [] => none
  | [x] => x.minLen
  | x :: xs => do
    let a ← x.minLen
    let b ← minLenLeast xs
    pure (min a b)

end

mutual

/-- The greatest number of bytes a core matches; none when it is unbounded or cannot
match. -/
def maxLen : Normal → Option Nat
  | .empty => some 0
  | .literal bs => some bs.length
  | .cls rs => rs.getLast?.map fun r => utf8Length r.2
  | .look _ => some 0
  | .rep b _ hi _ => hi.bind fun m => b.maxLen.map (· * m)
  | .capture _ b => b.maxLen
  | .concat xs => maxLenSum xs
  | .alt xs => maxLenMost xs

/-- The greatest length of items in a row. -/
def maxLenSum : List Normal → Option Nat
  | [] => some 0
  | x :: xs => do
    let a ← x.maxLen
    let b ← maxLenSum xs
    pure (a + b)

/-- The greatest length over branches, none as soon as one branch has none. -/
def maxLenMost : List Normal → Option Nat
  | [] => none
  | [x] => x.maxLen
  | x :: xs => do
    let a ← x.maxLen
    let b ← maxLenMost xs
    pure (max a b)

end

mutual

/-- Whether every match of a core starts with the test for the start of the text, as
far as its leading items that match only the empty text show. -/
def startsAnchored : Normal → Bool
  | .look l => l == .start
  | .rep b lo _ _ => lo > 0 && b.startsAnchored
  | .capture _ b => b.startsAnchored
  | .concat xs => startsAnchoredRow xs
  | .alt xs => startsAnchoredAll xs
  | _ => false

/-- The leading items of a row, up to the first that can match a character. -/
def startsAnchoredRow : List Normal → Bool
  | [] => false
  | x :: xs => x.startsAnchored || (x.maxLen == some 0 && startsAnchoredRow xs)

/-- Every branch starts anchored. -/
def startsAnchoredAll : List Normal → Bool
  | [] => false
  | [x] => x.startsAnchored
  | x :: xs => x.startsAnchored && startsAnchoredAll xs

end

/-- Whether every core of a list matches only the empty text. -/
def onlyEmpty (xs : List Normal) : Bool :=
  xs.all fun x => x.maxLen == some 0

mutual

/-- Whether every match of a core ends with the test for the end of the text, as far as
its trailing items that match only the empty text show. -/
def endsAnchored : Normal → Bool
  | .look l => l == .finish
  | .rep b lo _ _ => lo > 0 && b.endsAnchored
  | .capture _ b => b.endsAnchored
  | .concat xs => endsAnchoredRow xs
  | .alt xs => endsAnchoredAll xs
  | _ => false

/-- The trailing items of a row, from the last back to the last that can match a
character: an item counts when all items after it match only the empty text. -/
def endsAnchoredRow : List Normal → Bool
  | [] => false
  | x :: xs => endsAnchoredRow xs || (onlyEmpty xs && x.endsAnchored)

/-- Every branch ends anchored. -/
def endsAnchoredAll : List Normal → Bool
  | [] => false
  | [x] => x.endsAnchored
  | x :: xs => x.endsAnchored && endsAnchoredAll xs

end

/-- The number of constructors in a core, the measure the alternation's simplification
decreases. -/
def size : Normal → Nat
  | .rep b _ _ _ => b.size + 1
  | .capture _ b => b.size + 1
  | .concat xs => sizeList xs + 1
  | .alt xs => sizeList xs + 1
  | _ => 1
where
  /-- The sizes of a list of cores, added up. -/
  sizeList : List Normal → Nat
    | [] => 0
    | x :: xs => x.size + sizeList xs

/-- A class from canonical ranges: the literal of its one code point, if it has one. -/
def ofRanges (rs : List (Nat × Nat)) : Normal :=
  match rs with
  | [(a, b)] => if a = b then .literal (utf8Bytes a) else .cls rs
  | _ => .cls rs

/-- Adds an item to a row kept newest first, with the literal bytes still to close. -/
def pushItem (acc : List Normal × List Nat) (x : Normal) : List Normal × List Nat :=
  let close (row : List Normal) (pending : List Nat) : List Normal :=
    if pending.isEmpty then row else .literal pending :: row
  match x with
  | .literal bs => (acc.1, acc.2 ++ bs)
  | .empty => acc
  | other => (other :: close acc.1 acc.2, [])

/-- The concatenation of cores. -/
def concatenation (xs : List Normal) : Normal :=
  let step (acc : List Normal × List Nat) (x : Normal) : List Normal × List Nat :=
    match x with
    | .concat ys => ys.foldl pushItem acc
    | other => pushItem acc other
  let (row, pending) := xs.foldl step ([], [])
  let row := (if pending.isEmpty then row else .literal pending :: row).reverse
  match row with
  | [] => .empty
  | [x] => x
  | _ => .concat row

/-- The code point of a literal of exactly one code point. -/
def singleCode (bs : List Nat) : Option Nat :=
  match bs with
  | [a] => if a < 0x80 then some a else none
  | [a, b] => some ((a - 0xC0) * 0x40 + (b - 0x80))
  | [a, b, c] => some ((a - 0xE0) * 0x1000 + (b - 0x80) * 0x40 + (c - 0x80))
  | [a, b, c, d] =>
    if a ≥ 0xF0 then some ((a - 0xF0) * 0x40000 + (b - 0x80) * 0x1000 + (c - 0x80) * 0x40 + (d - 0x80))
    else none
  | _ => none

/-- The code points of branches that are all literals of one code point. -/
def singleCodes (xs : List Normal) : Option (List Nat) :=
  xs.mapM fun (x : Normal) =>
    match x with
    | .literal bs => (singleCode bs).filter fun c => utf8Bytes c == bs
    | _ => none

/-- The ranges of branches that are all classes. -/
def classRanges (xs : List Normal) : Option (List (Nat × Nat)) :=
  (xs.mapM fun (x : Normal) =>
    match x with
    | .cls rs => some rs
    | _ => none).map List.flatten

/-- The length of the longest common run at the start of two rows. -/
def commonRun : List Normal → List Normal → Nat
  | x :: xs, y :: ys => if same x y then commonRun xs ys + 1 else 0
  | _, _ => 0

/-- The items of branches that are all concatenations. -/
def rows (xs : List Normal) : Option (List (List Normal)) :=
  xs.mapM fun (x : Normal) =>
    match x with
    | .concat ys => some ys
    | _ => none

/-- The alternation of cores, with a bound on the depth of the simplification, which
the total size of the branches gives. -/
def alternationGo : Nat → List Normal → Normal
  | 0, xs => .alt xs
  | fuel + 1, xs =>
    let flat := xs.flatMap fun (x : Normal) =>
      match x with
      | .alt ys => ys
      | other => [other]
    match flat with
    | [] => .cls []
    | [x] => x
    | _ =>
      match singleCodes flat with
      | some cs => ofRanges (CharSet.ofList cs).ranges.toList
      | none =>
        match classRanges flat with
        | some rs => ofRanges (CharSet.ofRanges rs).ranges.toList
        | none =>
          match rows flat with
          | some (first :: rest) =>
            let run := rest.foldl (fun n row => min n (commonRun first row)) first.length
            if run = 0 then .alt flat
            else
              let rests := (rows flat).getD [] |>.map fun row => concatenation (row.drop run)
              concatenation (first.take run ++ [alternationGo fuel rests])
          | _ => .alt flat

/-- The alternation of cores, the first preferred. -/
def alternation (xs : List Normal) : Normal :=
  alternationGo (size.sizeList xs + 1) xs

/-- The repetition of a core. -/
def repetition (b : Normal) (lo : Nat) (hi : Option Nat) (greedy : Bool) : Normal :=
  let (lo, hi) := if b.maxLen == some 0 then (min lo 1, some (min (hi.getD 1) 1)) else (lo, hi)
  if lo = 0 ∧ hi = some 0 then .empty
  else if lo = 1 ∧ hi = some 1 then b
  else .rep b lo hi greedy

/-- The code points of UTF-8 bytes, with the part of a code point read so far and the
number of bytes it still needs. -/
def codesGo (acc need : Nat) : List Nat → List Nat
  | [] => []
  | b :: rest =>
    if need > 0 then
      let code := acc * 0x40 + (b - 0x80)
      if need = 1 then code :: codesGo 0 0 rest else codesGo code (need - 1) rest
    else if b < 0x80 then b :: codesGo 0 0 rest
    else if b < 0xE0 then codesGo (b - 0xC0) 1 rest
    else if b < 0xF0 then codesGo (b - 0xE0) 2 rest
    else codesGo (b - 0xF0) 3 rest

/-- The code points of the bytes of a literal. -/
def codes (bs : List Nat) : List Nat := codesGo 0 0 bs

mutual

/-- The core a normal form matches like: a literal is its characters in a row, a class
its set. -/
def toCore : Normal → Core
  | .empty => .empty
  | .literal bs =>
    match (codes bs).map fun c => Core.chars (CharSet.single c) with
    | [x] => x
    | xs => .cat xs
  | .cls rs => .chars (CharSet.ofRanges rs)
  | .look l => .look l
  | .rep b lo hi greedy => .rep b.toCore lo hi greedy
  | .capture i b => .capture i b.toCore
  | .concat xs => .cat (toCoreList xs)
  | .alt xs => .alt (toCoreList xs)

/-- The cores of a list of normal forms. -/
def toCoreList : List Normal → List Core
  | [] => []
  | x :: xs => x.toCore :: toCoreList xs

end

end Normal

mutual

/-- The normal form of a core. -/
def Core.normal : Core → Normal
  | .empty => .empty
  | .chars s => Normal.ofRanges s.ranges.toList
  | .look l => .look l
  | .cat hs => Normal.concatenation (Core.normalList hs)
  | .alt hs => Normal.alternation (Core.normalList hs)
  | .rep b lo hi greedy => Normal.repetition b.normal lo hi greedy
  | .capture i b => .capture i b.normal

/-- The normal forms of a list of cores. -/
def Core.normalList : List Core → List Normal
  | [] => []
  | h :: hs => h.normal :: Core.normalList hs

end

end Regex

end ScriptLib
