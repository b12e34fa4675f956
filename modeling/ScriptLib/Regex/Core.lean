import ScriptLib.Regex.Syntax

/-!
# The core of a pattern

A parsed pattern comes down to its core: sets of characters, position tests,
concatenation, alternation, repetition and capture. The flags are resolved on the way,
in reading order: a flag setting `(?i)` holds until the end of the enclosing group, and
flags given on a group `(?i:..)` hold inside it only.

Ignoring case closes each set under simple case folding. In a bracket class, the POSIX
and Unicode classes are folded and negated one by one, the operands of a set operator are
folded before the operator, and the whole bracket is folded before it is negated, so that
`(?i)[^x]` matches neither `x` nor `X`.

Without Unicode (`(?-u)`), classes are classes of bytes. A pattern of texts must not match
an incomplete character, so a class that could match a byte above `0x7F` and the dot are
refused, and so are non-ASCII characters where a byte is expected: in a class,
and as a two-digit `\xNN` above `0x7F`. Any other literal character stands for itself,
and ignoring case then folds ASCII letters only.
-/

namespace ScriptLib

namespace Regex

/-- A test of the position between two characters. -/
inductive Look where
  /-- the start of the text -/
  | start
  /-- the end of the text -/
  | finish
  /-- the start of a line ended by line feeds -/
  | startLF
  /-- the end of a line ended by line feeds -/
  | endLF
  /-- the start of a line ended by line feeds or carriage returns -/
  | startCRLF
  /-- the end of a line ended by line feeds or carriage returns -/
  | endCRLF
  /-- a word boundary, with word characters ASCII or Unicode -/
  | word (unicode : Bool)
  /-- not a word boundary -/
  | notWord (unicode : Bool)
  /-- the start of a word -/
  | wordStart (unicode : Bool)
  /-- the end of a word -/
  | wordEnd (unicode : Bool)
  /-- not after a word character -/
  | wordStartHalf (unicode : Bool)
  /-- not before a word character -/
  | wordEndHalf (unicode : Bool)
  deriving BEq, Repr, Inhabited

/-- The core of a pattern. -/
inductive Core where
  | empty
  /-- one character of a set -/
  | chars (s : CharSet)
  | look (l : Look)
  /-- the items in a row, at least two -/
  | cat (items : List Core)
  /-- one of the branches, at least two, the first preferred -/
  | alt (items : List Core)
  | rep (body : Core) (min : Nat) (max : Option Nat) (greedy : Bool)
  | capture (index : Nat) (body : Core)
  deriving Repr, Inhabited

/-- The flags in force at a point of a pattern. -/
structure Flags where
  caseless : Bool
  multiLine : Bool
  dotAll : Bool
  swapGreed : Bool
  unicode : Bool
  crlf : Bool
  deriving Repr, Inhabited

namespace Flags

/-- Sets one flag. -/
def set (f : Flags) (g : Flag) (v : Bool) : Flags :=
  match g with
  | .caseless => { f with caseless := v }
  | .multiLine => { f with multiLine := v }
  | .dotAll => { f with dotAll := v }
  | .swapGreed => { f with swapGreed := v }
  | .unicode => { f with unicode := v }
  | .crlf => { f with crlf := v }
  | .ignoreSpace => f

/-- Applies a flag group: flags before a negation are set, flags after it cleared. -/
def apply (f : Flags) (items : List FlagItem) : Flags :=
  (items.foldl (fun (acc : Flags × Bool) item =>
    match item with
    | .negation => (acc.1, false)
    | .flag g => (acc.1.set g acc.2, acc.2)) (f, true)).1

end Flags

/-- The error of a span. -/
def errorAt {α : Type} (kind : ErrorKind) (span : Span) : Except SyntaxError α :=
  .error ⟨kind, span, none⟩

/-- Folds case (if asked) and then negates (if asked) a set of a class; a byte class must
stay within ASCII. -/
def foldNegate (f : Flags) (negated : Bool) (span : Span) (s : CharSet) :
    Except SyntaxError CharSet :=
  if f.unicode then
    let s := if f.caseless then caseFold s else s
    .ok (if negated then s.negate else s)
  else
    let s := if f.caseless then s.asciiFold else s
    let s := if negated then s.complementWithin 0xFF else s
    if s.isAscii then .ok s else errorAt .invalidUtf8 span

/-- Folds the case of a set, if asked. -/
def foldIf (f : Flags) (s : CharSet) : CharSet :=
  if !f.caseless then s else if f.unicode then caseFold s else s.asciiFold

/-- The set of a Unicode class query, and whether the query itself negates it. -/
def querySet (q : PropertyQuery) (span : Span) : Except SyntaxError (CharSet × Bool) :=
  let found := match q with
    | .oneLetter c => (namedClass (String.singleton c)).map fun s => (s, false)
    | .named name => (namedClass name).map fun s => (s, false)
    | .byValue name value equal => (valuedClass name value).map fun s => (s, !equal)
  match found with
  | .ok r => .ok r
  | .error .notFound => errorAt .unicodePropertyNotFound span
  | .error .valueNotFound => errorAt .unicodePropertyValueNotFound span

/-- The set of a Unicode class. -/
def unicodeClass (f : Flags) (q : PropertyQuery) (negated : Bool) (span : Span) :
    Except SyntaxError CharSet := do
  if !f.unicode then errorAt .unicodeNotAllowed span
  else
    let (s, flip) ← querySet q span
    foldNegate f (negated != flip) span s

/-- The set of a Perl class. -/
def perlClass (f : Flags) (kind : PerlClass) (negated : Bool) (span : Span) :
    Except SyntaxError CharSet :=
  if f.unicode then .ok (if negated then kind.unicode.negate else kind.unicode)
  else
    let s := if negated then kind.ascii.complementWithin 0xFF else kind.ascii
    if s.isAscii then .ok s else errorAt .invalidUtf8 span

/-- The byte of a literal in a byte class. -/
def classByte (x : ClassChar) : Except SyntaxError Nat :=
  match x.byte with
  | some b => if b > 0x7F then errorAt .invalidUtf8 x.span else .ok b
  | none => if x.c.toNat ≤ 0x7F then .ok x.c.toNat else errorAt .unicodeNotAllowed x.span

mutual

/-- The set of an item of a bracket class. -/
def classSet (f : Flags) : ClassItem → Except SyntaxError CharSet
  | .literal x =>
    if f.unicode then .ok (CharSet.single x.c.toNat) else (classByte x).map CharSet.single
  | .range a b =>
    if f.unicode then .ok (CharSet.range a.c.toNat b.c.toNat)
    else do
      let lo ← classByte a
      let hi ← classByte b
      .ok (CharSet.range lo hi)
  | .ascii kind negated span => foldNegate f negated span kind.chars
  | .perl kind negated span => perlClass f kind negated span
  | .unicode q negated span => unicodeClass f q negated span
  | .bracket negated body span => do
    let s ← classSet f body
    foldNegate f negated span s
  | .union items _ => classSetList f items
  | .op kind lhs rhs => do
    let l ← classSet f lhs
    let r ← classSet f rhs
    let l := foldIf f l
    let r := foldIf f r
    .ok (match kind with
      | .intersection => l.intersect r
      | .difference => l.difference r
      | .symmetricDifference => l.symmetricDifference r)

/-- The union of the sets of class items. -/
def classSetList (f : Flags) : List ClassItem → Except SyntaxError CharSet
  | [] => .ok CharSet.empty
  | x :: rest => do
    let s ← classSet f x
    let t ← classSetList f rest
    .ok (s.union t)

end

/-- The core of a literal character. -/
def literalCore (f : Flags) (c : Char) (byte : Option Nat) (span : Span) :
    Except SyntaxError Core :=
  if f.unicode then
    let s := CharSet.single c.toNat
    .ok (.chars (if f.caseless then caseFold s else s))
  else
    match byte with
    | some b => if b > 0x7F then errorAt .invalidUtf8 span else .ok (.chars (foldIf f (CharSet.single b)))
    | none => .ok (.chars (foldIf f (CharSet.single c.toNat)))

/-- The core of the dot. -/
def dotCore (f : Flags) (span : Span) : Except SyntaxError Core :=
  if !f.unicode then errorAt .invalidUtf8 span
  else if f.dotAll then .ok (.chars (CharSet.range 0 maxCode))
  else if f.crlf then .ok (.chars (CharSet.ofRanges [(0, 0x09), (0x0B, 0x0C), (0x0E, maxCode)]))
  else .ok (.chars (CharSet.ofRanges [(0, 0x09), (0x0B, maxCode)]))

/-- The core of an assertion. -/
def assertionCore (f : Flags) (kind : Assertion) (_span : Span) : Except SyntaxError Core :=
  let u := f.unicode
  match kind with
  | .startLine => .ok (.look (if f.multiLine then (if f.crlf then .startCRLF else .startLF) else .start))
  | .endLine => .ok (.look (if f.multiLine then (if f.crlf then .endCRLF else .endLF) else .finish))
  | .startText => .ok (.look .start)
  | .endText => .ok (.look .finish)
  | .wordBoundary => .ok (.look (.word u))
  | .notWordBoundary => .ok (.look (.notWord u))
  | .wordStart => .ok (.look (.wordStart u))
  | .wordEnd => .ok (.look (.wordEnd u))
  | .wordStartHalf => .ok (.look (.wordStartHalf u))
  | .wordEndHalf => .ok (.look (.wordEndHalf u))

/-- The concatenation of a list of cores. -/
def catOf : List Core → Core
  | [] => .empty
  | [h] => h
  | hs => .cat hs

/-- The alternation of a list of cores, the first preferred. -/
def altOf : List Core → Core
  | [] => .empty
  | [h] => h
  | hs => .alt hs

mutual

/-- The core of an item under the flags in force, with the flags in force after it. -/
def coreOf (f : Flags) : Ast → Except SyntaxError (Core × Flags)
  | .empty _ => .ok (.empty, f)
  | .setFlags items _ => .ok (.empty, f.apply items)
  | .literal c byte span => (literalCore f c byte span).map fun h => (h, f)
  | .dot span => (dotCore f span).map fun h => (h, f)
  | .assertion kind span => (assertionCore f kind span).map fun h => (h, f)
  | .perl kind negated span => (perlClass f kind negated span).map fun s => (.chars s, f)
  | .unicode q negated span => (unicodeClass f q negated span).map fun s => (.chars s, f)
  | .bracket negated body span => do
    let s ← classSet f body
    let s ← foldNegate f negated span s
    .ok (.chars s, f)
  | .repetition body lo hi greedy _ => do
    let (h, _) ← coreOf f body
    .ok (.rep h lo hi (greedy != f.swapGreed), f)
  | .group capture items body _ => do
    let (h, _) ← coreOf (f.apply items) body
    .ok ((match capture with
      | some i => .capture i h
      | none => h), f)
  | .concat items _ => do
    let (hs, f') ← coreOfList f items
    .ok (catOf hs, f')
  | .alternation items _ => do
    let (hs, f') ← coreOfList f items
    .ok (altOf hs, f')

/-- The cores of items read in order, the flags passing from each to the next. -/
def coreOfList (f : Flags) : List Ast → Except SyntaxError (List Core × Flags)
  | [] => .ok ([], f)
  | a :: rest => do
    let (h, f1) ← coreOf f a
    let (hs, f2) ← coreOfList f1 rest
    .ok (h :: hs, f2)

end

end Regex

end ScriptLib
