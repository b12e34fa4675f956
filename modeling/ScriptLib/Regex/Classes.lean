import ScriptLib.Regex.Charset
import ScriptLib.Unicode.Alias
import ScriptLib.Unicode.Age
import ScriptLib.Unicode.Break
import ScriptLib.Unicode.Category
import ScriptLib.Unicode.Fold
import ScriptLib.Unicode.Property
import ScriptLib.Unicode.Script

/-!
# Named classes of characters

The classes a pattern can name: the Perl classes `\d`, `\s` and `\w`, the POSIX classes
`[:alpha:]` and the rest, and the Unicode classes `\p{..}`, all with the tables of Unicode
16.0. Under Unicode, `\d` is the decimal numbers (category Nd), `\s` the White_Space
characters and `\w` the alphabetic characters with the marks, decimal numbers, connector
punctuation and the joiners; without Unicode they are their ASCII parts.

A Unicode class is found in two steps. Its names are first made canonical: a single name
is a property if some property has that name, else a general category, else a script; a
name with a value is a property and one of its values. Then the canonical query selects
its characters. The two steps fail differently: a name that is no property, category or
script is an unknown property, while a known property without the value asked for, or
that cannot be used the way it is, is an unknown value. Three short names of general
categories, `cf`, `sc` and `lc`, are also short names of properties; alone they mean the
categories.

Simple case folding closes a set under the classes of characters that are equal when
case is ignored: each character brings every other member of its fold class.
-/

namespace ScriptLib

namespace Regex

open Unicode

/-- The set of a range table. -/
def rangesOf (text : String) : CharSet :=
  CharSet.ofRanges (Text.Compact.ranges text).toList

/-- The ranges of a run list whose value is among `vals`. -/
def runRanges (vals : List Nat) : List (Nat × Nat) → List (Nat × Nat)
  | [] => []
  | [(a, k)] => if vals.contains k then [(a, maxCode)] else []
  | (a, k) :: (b, k') :: rest =>
    let tail := runRanges vals ((b, k') :: rest)
    if vals.contains k then (a, b - 1) :: tail else tail

/-- The characters whose general category is among `cats` (numbers of `categoryNames`). -/
def categorySet (cats : List Nat) : CharSet :=
  CharSet.ofRanges (runRanges cats categoryRuns.toList)

/-- The fold classes, each a list of code points. -/
def foldClasses : Array (List Nat) :=
  ((foldText.splitOn ";").map fun g => (g.splitOn " ").map Text.Compact.hexValue).toArray

/-- Every code point that has a fold class, with the class's position, by code point. -/
def foldIndex : Array (Nat × Nat) :=
  let pairs := (List.range foldClasses.size).flatMap fun i =>
    (foldClasses.getD i []).map fun c => (c, i)
  (pairs.mergeSort fun p q => p.1 ≤ q.1).toArray

/-- The first position of `foldIndex` in `[lo, hi)` whose code point is at least `c`. -/
def foldLowerBound (c : Nat) : Nat → Nat → Nat → Nat
  | 0, lo, _ => lo
  | fuel + 1, lo, hi =>
    if lo < hi then
      let mid := (lo + hi) / 2
      if (foldIndex.getD mid (0, 0)).1 < c then foldLowerBound c fuel (mid + 1) hi
      else foldLowerBound c fuel lo mid
    else lo

/-- The fold classes met by the code points of `foldIndex` from position `i` up to `b`. -/
def foldClassesUpTo (b : Nat) : Nat → Nat → List Nat
  | 0, _ => []
  | fuel + 1, i =>
    match foldIndex[i]? with
    | some (c, k) => if c ≤ b then k :: foldClassesUpTo b fuel (i + 1) else []
    | none => []

/-- The set closed under simple case folding. -/
def caseFold (s : CharSet) : CharSet :=
  let classes := s.ranges.toList.flatMap fun r =>
    foldClassesUpTo r.2 foldIndex.size (foldLowerBound r.1 64 0 foldIndex.size)
  s.union (CharSet.ofList (classes.flatMap fun k => foldClasses.getD k []))

/-- The characters of a binary property, by long name. -/
def binaryProperty? (name : String) : Option CharSet :=
  (binaryProperties.find? fun p => p.1 = name).map fun p => rangesOf p.2

/-- The White_Space characters. -/
def whiteSpace : CharSet := (binaryProperty? "White_Space").getD CharSet.empty

/-- The Alphabetic characters. -/
def alphabetic : CharSet := (binaryProperty? "Alphabetic").getD CharSet.empty

/-- The characters of `\d` under Unicode: the decimal numbers. -/
def perlDigit : CharSet := categorySet [8]

/-- The characters of `\w` under Unicode: the alphabetic characters, the marks, the
decimal numbers, the connector punctuation and the two joiners. -/
def perlWord : CharSet :=
  alphabetic.union ((categorySet [5, 6, 7, 8, 11]).union (CharSet.range 0x200C 0x200D))

/-- The three Perl classes. -/
inductive PerlClass where
  | digit
  | space
  | word
  deriving BEq, Repr, Inhabited

/-- The ASCII part of a Perl class. -/
def PerlClass.ascii : PerlClass → CharSet
  | .digit => CharSet.range 0x30 0x39
  | .space => CharSet.ofRanges [(0x09, 0x0D), (0x20, 0x20)]
  | .word => CharSet.ofRanges [(0x30, 0x39), (0x41, 0x5A), (0x5F, 0x5F), (0x61, 0x7A)]

/-- The Unicode extent of a Perl class. -/
def PerlClass.unicode : PerlClass → CharSet
  | .digit => perlDigit
  | .space => whiteSpace
  | .word => perlWord

/-- The POSIX classes of bracket expressions. -/
inductive AsciiClass where
  | alnum | alpha | ascii | blank | cntrl | digit | graph | lower | print | punct | space
  | upper | word | xdigit
  deriving BEq, Repr, Inhabited

namespace AsciiClass

/-- The class of a POSIX name. -/
def ofName : String → Option AsciiClass
  | "alnum" => some .alnum
  | "alpha" => some .alpha
  | "ascii" => some .ascii
  | "blank" => some .blank
  | "cntrl" => some .cntrl
  | "digit" => some .digit
  | "graph" => some .graph
  | "lower" => some .lower
  | "print" => some .print
  | "punct" => some .punct
  | "space" => some .space
  | "upper" => some .upper
  | "word" => some .word
  | "xdigit" => some .xdigit
  | _ => none

/-- The characters of a POSIX class. -/
def chars : AsciiClass → CharSet
  | .alnum => CharSet.ofRanges [(0x30, 0x39), (0x41, 0x5A), (0x61, 0x7A)]
  | .alpha => CharSet.ofRanges [(0x41, 0x5A), (0x61, 0x7A)]
  | .ascii => CharSet.range 0 0x7F
  | .blank => CharSet.ofRanges [(0x09, 0x09), (0x20, 0x20)]
  | .cntrl => CharSet.ofRanges [(0x00, 0x1F), (0x7F, 0x7F)]
  | .digit => CharSet.range 0x30 0x39
  | .graph => CharSet.range 0x21 0x7E
  | .lower => CharSet.range 0x61 0x7A
  | .print => CharSet.range 0x20 0x7E
  | .punct => CharSet.ofRanges [(0x21, 0x2F), (0x3A, 0x40), (0x5B, 0x60), (0x7B, 0x7E)]
  | .space => CharSet.ofRanges [(0x09, 0x0D), (0x20, 0x20)]
  | .upper => CharSet.range 0x41 0x5A
  | .word => CharSet.ofRanges [(0x30, 0x39), (0x41, 0x5A), (0x5F, 0x5F), (0x61, 0x7A)]
  | .xdigit => CharSet.ofRanges [(0x30, 0x39), (0x41, 0x46), (0x61, 0x66)]

end AsciiClass

/-- A name of a property or value, compared without case, blanks, underscores, hyphens,
non-ASCII characters and a leading `is`. -/
def normalizeName (name : String) : String :=
  let cs := name.toList
  let startsWithIs := match cs with
    | a :: b :: _ => (a == 'i' || a == 'I') && (b == 's' || b == 'S')
    | _ => false
  let body := if startsWithIs then cs.drop 2 else cs
  let kept := body.filterMap fun c =>
    if c = ' ' ∨ c = '_' ∨ c = '-' then none
    else if 'A' ≤ c ∧ c ≤ 'Z' then some (Char.ofNat (c.toNat + 32))
    else if c.toNat ≤ 0x7F then some c
    else none
  if startsWithIs && kept == ['c'] then "isc" else String.ofList kept

/-- The long name of the entry of `table` one of whose names normalizes to `norm`. -/
def canonicalName (table : List (List String)) (norm : String) : Option String :=
  (table.find? fun names => names.any fun n => normalizeName n = norm).map fun names =>
    names.headD ""

/-- Every value of Script, those that no character has included. -/
def scriptAliases : List (List String) := scriptNames.toList ++ unlistedScripts

/-- The long name of the general category named `norm`, with `Any`, `Assigned` and
`ASCII`. -/
def canonicalCategory (norm : String) : Option String :=
  if norm = "any" then some "Any"
  else if norm = "assigned" then some "Assigned"
  else if norm = "ascii" then some "ASCII"
  else canonicalName categoryAliases norm

/-- The value names of the properties other than General_Category and Script that a
pattern can give a value. -/
def valueAliases : String → Option (List (List String))
  | "Age" => some ageAliases
  | "Script_Extensions" => some scriptAliases
  | "Grapheme_Cluster_Break" => some graphemeBreakAliases
  | "Word_Break" => some wordBreakAliases
  | "Sentence_Break" => some sentenceBreakAliases
  | _ => none

/-- A Unicode class with its names made canonical. -/
inductive ClassQuery where
  /-- A binary property, by long name. -/
  | binary (name : String)
  /-- A general category or group of them, or `Any`, `Assigned` or `ASCII`. -/
  | category (name : String)
  /-- A script. -/
  | script (name : String)
  /-- A property with a value, neither General_Category nor Script. -/
  | byValue (property value : String)
  deriving BEq, Repr

/-- Why a Unicode class could not be found. -/
inductive PropertyError where
  | notFound
  | valueNotFound
  deriving BEq, Repr

/-- The canonical query of a single name: a property, else a general category, else a
script. -/
def ClassQuery.ofName (name : String) : Except PropertyError ClassQuery :=
  let norm := normalizeName name
  let property :=
    if norm = "cf" ∨ norm = "sc" ∨ norm = "lc" then none
    else canonicalName propertyAliases norm
  match property with
  | some p => .ok (.binary p)
  | none =>
    match canonicalCategory norm with
    | some c => .ok (.category c)
    | none =>
      match canonicalName scriptAliases norm with
      | some s => .ok (.script s)
      | none => .error .notFound

/-- The canonical query of a property with a value. -/
def ClassQuery.ofValue (property value : String) : Except PropertyError ClassQuery :=
  let val := normalizeName value
  match canonicalName propertyAliases (normalizeName property) with
  | none => .error .notFound
  | some "General_Category" =>
    match canonicalCategory val with
    | some c => .ok (.category c)
    | none => .error .valueNotFound
  | some "Script" =>
    match canonicalName scriptAliases val with
    | some s => .ok (.script s)
    | none => .error .valueNotFound
  | some p =>
    match valueAliases p with
    | none => .error .valueNotFound
    | some table =>
      match canonicalName table val with
      | some v => .ok (.byValue p v)
      | none => .error .valueNotFound

/-- The first position in `names` whose long name is `name`. -/
def positionOf (names : List (List String)) (name : String) : Option Nat :=
  names.findIdx? fun n => n.headD "" = name

/-- The characters of a general category or group, by long name. -/
def categoryClass (name : String) : Except PropertyError CharSet :=
  if name = "ASCII" then .ok (CharSet.range 0 0x7F)
  else if name = "Any" then .ok (CharSet.range 0 maxCode)
  else if name = "Assigned" then .ok (categorySet [29]).negate
  else
    match categoryGroups.find? fun g => g.1 = name with
    | some (_, cats) => .ok (categorySet (cats.filterMap fun c => categoryNames.toList.idxOf? c))
    | none => .error .valueNotFound

/-- The characters of a script, by long name. -/
def scriptClass (name : String) : Except PropertyError CharSet :=
  match positionOf scriptNames.toList name with
  | some k => .ok (CharSet.ofRanges (runRanges [k] scriptRuns.toList))
  | none => .error .valueNotFound

/-- The characters whose script extensions include a script, by long name. -/
def extensionClass (name : String) : Except PropertyError CharSet :=
  match positionOf scriptNames.toList name with
  | some k =>
    let sets := (List.range extensionSets.size).filter fun i => (extensionSets.getD i []).contains k
    .ok (CharSet.ofRanges (runRanges sets extensionRuns.toList))
  | none => .error .valueNotFound

/-- The characters assigned by a version of Unicode or an earlier one, by long name. -/
def ageClass (name : String) : Except PropertyError CharSet :=
  match positionOf (ageNames.toList) name with
  | some k => .ok (CharSet.ofRanges (runRanges (List.range (k + 1)) ageRuns.toList))
  | none => .error .valueNotFound

/-- The characters of a value of a segmentation property; the last value, Other, is
the one that no character is listed with. -/
def breakClass (names : Array String) (runs : Array (Nat × Nat)) (name : String) :
    Except PropertyError CharSet :=
  match names.toList.dropLast.idxOf? name with
  | some k => .ok (CharSet.ofRanges (runRanges [k] runs.toList))
  | none => .error .valueNotFound

/-- The characters of a canonical query. -/
def ClassQuery.chars : ClassQuery → Except PropertyError CharSet
  | .binary name =>
    match binaryProperty? name with
    | some s => .ok s
    | none => .error .notFound
  | .category name => categoryClass name
  | .script name => scriptClass name
  | .byValue "Age" v => ageClass v
  | .byValue "Script_Extensions" v => extensionClass v
  | .byValue "Grapheme_Cluster_Break" v => breakClass graphemeBreakNames graphemeBreakRuns v
  | .byValue "Word_Break" v => breakClass wordBreakNames wordBreakRuns v
  | .byValue "Sentence_Break" v => breakClass sentenceBreakNames sentenceBreakRuns v
  | .byValue _ _ => .error .notFound

/-- The class of `\p` with one name. -/
def namedClass (name : String) : Except PropertyError CharSet :=
  (ClassQuery.ofName name).bind ClassQuery.chars

/-- The class of `\p` with a property and a value. -/
def valuedClass (property value : String) : Except PropertyError CharSet :=
  (ClassQuery.ofValue property value).bind ClassQuery.chars

end Regex

end ScriptLib
