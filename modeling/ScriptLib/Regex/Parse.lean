import ScriptLib.Regex.Syntax
import ScriptLib.Text.Blank
import ScriptLib.Text.Letters

/-!
# Parsing patterns

The parser reads a pattern one character at a time, with a stack of open groups and a
stack of open bracket classes; every error carries the span where it was found.

In blank-insensitive mode (`x`) blanks and `#` comments between items are skipped. The
numbers of a counted repetition `{m,n}` may always be surrounded by blanks. A `]` right
after `[` or `[^` is a literal, and so is any number of `-` there; a `-` before `]` or
before another `-` is a literal too. `[:name:]` inside a bracket is a POSIX class when
it is one, and an ordinary nested bracket otherwise.

Each loop is bounded by the length of the pattern, since every step of it consumes at
least one character.
-/

namespace ScriptLib

namespace Regex

/-- What a group opened. -/
inductive GroupKind where
  | capture (index : Nat)
  | plain (flags : List FlagItem)

/-- The concatenation being read: its items, newest first, and the offset where it
began. -/
structure OpenConcat where
  items : List Ast
  start : Nat

/-- The class union being read: its items, newest first, and the offset where it began,
which is where it stands while it has no items. -/
structure OpenUnion where
  items : List ClassItem
  start : Nat

/-- A frame of the group stack. -/
inductive GroupFrame where
  /-- the branches of an alternation so far, in order, and where the first began -/
  | alternation (branches : List Ast) (start : Nat)
  /-- an open group: the concatenation before it, its kind, its opening parenthesis and
  the blank mode outside it -/
  | group (before : OpenConcat) (kind : GroupKind) (opening : Span) (ignoreSpace : Bool)

/-- A frame of the class stack. -/
inductive ClassFrame where
  /-- an open bracket: the enclosing union, negation and opening span -/
  | opened (union : OpenUnion) (negated : Bool) (opening : Span)
  /-- a set operator waiting for its right side -/
  | operator (kind : SetOp) (lhs : ClassItem)

/-- The state of the parser. -/
structure ParseState where
  pattern : Array Char
  pos : Nat
  ignoreSpace : Bool
  captures : Nat
  /-- the capture names so far, with their spans and group numbers -/
  names : List (String × Span × Nat)
  groups : List GroupFrame
  classes : List ClassFrame

/-- A parsing step. -/
abbrev Parser := StateT ParseState (Except SyntaxError)

/-- A primitive of the pattern: something that stands for one item. -/
inductive Primitive where
  | literal (c : Char) (byte : Option Nat)
  | assertion (kind : Assertion)
  | dot
  | perl (kind : PerlClass) (negated : Bool)
  | unicode (query : PropertyQuery) (negated : Bool)

/-- A primitive with its span. -/
structure Prim where
  prim : Primitive
  span : Span

/-- The item a primitive stands for outside a class. -/
def Prim.toAst (p : Prim) : Ast :=
  match p.prim with
  | .literal c byte => .literal c byte p.span
  | .assertion kind => .assertion kind p.span
  | .dot => .dot p.span
  | .perl kind negated => .perl kind negated p.span
  | .unicode query negated => .unicode query negated p.span

/-- The item a concatenation stands for, given its span: nothing, its only item, or all
of them in order. -/
def OpenConcat.toAst (c : OpenConcat) (span : Span) : Ast :=
  match c.items.reverse with
  | [] => .empty span
  | [a] => a
  | xs => .concat xs span

/-- The item a class union stands for: the empty set where it began, its only item, or
all of them in order, spanning from the first to the last. -/
def OpenUnion.toItem (u : OpenUnion) : ClassItem :=
  match u.items with
  | [] => .union [] ⟨u.start, u.start⟩
  | [a] => a
  | a :: rest =>
    let xs := (a :: rest).reverse
    .union xs ⟨(xs.headD a).span.start, a.span.stop⟩

/-- The position after blanks and comments from `pos`; `inComment` when inside one. -/
def skipSpace (p : Array Char) (inComment : Bool) (pos : Nat) : Nat :=
  if h : pos < p.size then
    let c := p[pos]
    if inComment then skipSpace p (c != '\n') (pos + 1)
    else if Text.isBlank c then skipSpace p false (pos + 1)
    else if c = '#' then skipSpace p true (pos + 1)
    else pos
  else pos
termination_by p.size - pos

/-- The first character from `i` on that is neither blank nor the first `#`. -/
def peekFrom (p : Array Char) (inComment : Bool) (i : Nat) : Option Char :=
  if h : i < p.size then
    let c := p[i]
    if Text.isBlank c then peekFrom p inComment (i + 1)
    else if !inComment && c = '#' then peekFrom p true (i + 1)
    else some c
  else none
termination_by p.size - i

/-- The characters that may be escaped anywhere. -/
def isMeta (c : Char) : Bool :=
  "\\.+*?()|[]{}^$#&-~".toList.contains c

/-- The characters that may be escaped to stand for themselves. -/
def isEscapable (c : Char) : Bool :=
  isMeta c || (c.toNat ≤ 0x7F && !c.isAlphanum && c != '<' && c != '>')

/-- Whether a character may stand in a capture name, first or later: letters and `_`
first, then also numbers, `.`, `[` and `]`, classified by Unicode 17.0. -/
def isCaptureChar (c : Char) (first : Bool) : Bool :=
  if first then c == '_' || Text.Letters.isAlphabetic c
  else c == '_' || c == '.' || c == '[' || c == ']' || Text.Letters.isAlphanumeric c

/-- Whether a character is a hexadecimal digit. -/
def isHex (c : Char) : Bool :=
  ('0' ≤ c && c ≤ '9') || ('a' ≤ c && c ≤ 'f') || ('A' ≤ c && c ≤ 'F')

/-- The flag of a letter. -/
def flagOf : Char → Option Flag
  | 'i' => some .caseless
  | 'm' => some .multiLine
  | 's' => some .dotAll
  | 'U' => some .swapGreed
  | 'u' => some .unicode
  | 'R' => some .crlf
  | 'x' => some .ignoreSpace
  | _ => none

/-- Whether a flag group turns a flag on or off, if it names it. -/
def flagState (items : List FlagItem) (f : Flag) : Option Bool :=
  let rec go (negated : Bool) : List FlagItem → Option Bool
    | [] => none
    | .negation :: rest => go true rest
    | .flag g :: rest => if g == f then some !negated else go negated rest
  go false items

namespace Parser

/-- Fails with an error at a span. -/
def fail {α : Type} (kind : ErrorKind) (span : Span) : Parser α :=
  throw ⟨kind, span, none⟩

/-- Fails with an error at a span that repeats the one at `aux`. -/
def failAux {α : Type} (kind : ErrorKind) (span aux : Span) : Parser α :=
  throw ⟨kind, span, some aux⟩

/-- The current offset. -/
def pos : Parser Nat := do
  return (← get).pos

/-- The current character, if any. -/
def char? : Parser (Option Char) := do
  let s ← get
  return s.pattern[s.pos]?

/-- The current character; NUL past the end, where it is never asked for. -/
def char : Parser Char := do
  return (← char?).getD '\x00'

/-- Whether the pattern is used up. -/
def isEof : Parser Bool := do
  let s ← get
  return s.pos ≥ s.pattern.size

/-- An empty span at the current offset. -/
def spanHere : Parser Span := do
  let p ← pos
  return ⟨p, p⟩

/-- The span of the current character. -/
def spanChar : Parser Span := do
  let p ← pos
  return ⟨p, p + 1⟩

/-- The bound on the steps of a loop over the pattern. -/
def fuel : Parser Nat := do
  return (← get).pattern.size + 1

/-- Moves past the current character; whether another one follows. -/
def bump : Parser Bool := do
  modify fun s => if s.pos < s.pattern.size then { s with pos := s.pos + 1 } else s
  return !(← isEof)

/-- Skips blanks and comments in blank-insensitive mode. -/
def bumpSpace : Parser Unit :=
  modify fun s => if s.ignoreSpace then { s with pos := skipSpace s.pattern false s.pos } else s

/-- Moves past the current character and then past blanks; whether a character follows. -/
def bumpAndBumpSpace : Parser Bool := do
  if !(← bump) then return false
  bumpSpace
  return !(← isEof)

/-- Moves past a text if the pattern continues with it. -/
def bumpIf (text : String) : Parser Bool := do
  let s ← get
  let cs := text.toList
  if (s.pattern.extract s.pos (s.pos + cs.length)).toList == cs then
    set { s with pos := s.pos + cs.length }
    return true
  else
    return false

/-- The character after the current one. -/
def peek : Parser (Option Char) := do
  let s ← get
  return s.pattern[s.pos + 1]?

/-- The character after the current one, skipping blanks and a comment sign in
blank-insensitive mode; the very next character when nothing else follows. -/
def peekSpace : Parser (Option Char) := do
  let s ← get
  if !s.ignoreSpace then return s.pattern[s.pos + 1]?
  if s.pos ≥ s.pattern.size then return none
  match peekFrom s.pattern false (s.pos + 1) with
  | some c => return some c
  | none => return s.pattern[s.pos + 1]?

/-- Skips blanks, whatever the mode. -/
def skipBlanks : Nat → Parser Unit
  | 0 => pure ()
  | n + 1 => do
    match ← char? with
    | some c => if Text.isBlank c then do let _ ← bump; skipBlanks n else pure ()
    | none => pure ()

/-- Skips blanks with `bumpAndBumpSpace`. -/
def skipBlanksSpaced : Nat → Parser Unit
  | 0 => pure ()
  | n + 1 => do
    match ← char? with
    | some c => if Text.isBlank c then do let _ ← bumpAndBumpSpace; skipBlanksSpaced n else pure ()
    | none => pure ()

/-- A decimal number of a counted repetition, with the blanks around it; an error is
returned as a value, since the caller decides when to report it. -/
def parseDecimal : Parser (Except SyntaxError Nat) := do
  let f ← fuel
  skipBlanks f
  let start ← pos
  let value ← readDigitsGo f none
  let stop ← pos
  skipBlanksSpaced f
  let span : Span := ⟨start, stop⟩
  match value with
  | none => return .error ⟨.repetitionCountDecimalEmpty, span, none⟩
  | some v => if v > 4294967295 then return .error ⟨.decimalInvalid, span, none⟩ else return .ok v
where
  /-- the digits, as a value once one is read -/
  readDigitsGo : Nat → Option Nat → Parser (Option Nat)
    | 0, acc => pure acc
    | n + 1, acc => do
      match ← char? with
      | some c =>
        if '0' ≤ c && c ≤ '9' then do
          let _ ← bumpAndBumpSpace
          readDigitsGo n (some ((acc.getD 0) * 10 + (c.toNat - '0'.toNat)))
        else pure acc
      | none => pure acc

/-- Lifts a deferred result. -/
def ofExcept {α : Type} : Except SyntaxError α → Parser α
  | .ok a => pure a
  | .error e => throw e

/-- The number of the next capture group. -/
def nextCaptureIndex (opening : Span) : Parser Nat := do
  let s ← get
  if s.captures ≥ captureLimit then fail .captureLimitExceeded opening
  set { s with captures := s.captures + 1 }
  return s.captures + 1

/-- Moves over the characters of a capture name up to `>`. -/
def scanName (start : Nat) : Nat → Parser Unit
  | 0 => pure ()
  | n + 1 => do
    match ← char? with
    | none => pure ()
    | some c =>
      if c = '>' then pure ()
      else
        let p ← pos
        if !isCaptureChar c (p == start) then
          let sp ← spanChar
          fail .groupNameInvalid sp
        if ← bump then scanName start n else pure ()

/-- Reads a capture name after `(?P<` or `(?<` and records it for a group. -/
def parseCaptureName (index : Nat) : Parser Unit := do
  if ← isEof then
    let sp ← spanHere
    fail .groupNameUnexpectedEof sp
  let start ← pos
  scanName start (← fuel)
  let stop ← pos
  if ← isEof then
    let sp ← spanHere
    fail .groupNameUnexpectedEof sp
  let _ ← bump
  let s ← get
  let name := String.ofList (s.pattern.extract start stop).toList
  if name.isEmpty then fail .groupNameEmpty ⟨start, start⟩
  let span : Span := ⟨start, stop⟩
  match s.names.find? (·.1 == name) with
  | some (_, orig, _) => failAux .groupNameDuplicate span orig
  | none => set { s with names := s.names ++ [(name, span, index)] }

/-- Reads flag items up to `:` or `)`. -/
def parseFlags : Nat → List (FlagItem × Span) → Option Span → Parser (List (FlagItem × Span))
  | 0, items, _ => pure items
  | n + 1, items, lastNegation => do
    let c ← char
    if c = ':' ∨ c = ')' then
      if let some sp := lastNegation then fail .flagDanglingNegation sp
      return items
    let sp ← spanChar
    let (item, negation) ← if c = '-' then pure (FlagItem.negation, some sp)
      else match flagOf c with
        | some f => pure (FlagItem.flag f, none)
        | none => fail .flagUnrecognized sp
    match items.find? (·.1 == item) with
    | some (_, orig) =>
      failAux (if item == .negation then .flagRepeatedNegation else .flagDuplicate) sp orig
    | none => pure ()
    if !(← bump) then
      let here ← spanHere
      fail .flagUnexpectedEof here
    parseFlags n (items ++ [(item, sp)]) negation

/-- Moves past a look-around opening, if there is one. -/
def isLookAroundPrefix : Parser Bool := do
  if ← bumpIf "?=" then return true
  if ← bumpIf "?!" then return true
  if ← bumpIf "?<=" then return true
  bumpIf "?<!"

/-- What an opening parenthesis starts: a flag setting, with its span, or a group. -/
inductive Opened where
  | flags (items : List FlagItem) (span : Span)
  | group (kind : GroupKind) (opening : Span)

/-- Reads the opening of a group at `(`. -/
def parseGroup : Parser Opened := do
  let openStart ← pos
  let opening : Span := ⟨openStart, openStart + 1⟩
  let _ ← bump
  bumpSpace
  if ← isLookAroundPrefix then
    let p ← pos
    fail .unsupportedLookAround ⟨openStart, p⟩
  let inner ← spanHere
  let named ← do if ← bumpIf "?P<" then pure true else bumpIf "?<"
  if named then
    let index ← nextCaptureIndex opening
    parseCaptureName index
    return .group (.capture index) opening
  if ← bumpIf "?" then
    if ← isEof then fail .groupUnclosed opening
    let items ← parseFlags (← fuel) [] none
    let charEnd ← char
    let _ ← bump
    let flags := items.map (·.1)
    if charEnd = ')' then
      if flags.isEmpty then fail .repetitionMissing inner
      return .flags flags ⟨openStart, ← pos⟩
    return .group (.plain flags) opening
  let index ← nextCaptureIndex opening
  return .group (.capture index) opening

/-- Opens a group, or applies a flag setting to the items so far. -/
def pushGroup (concat : OpenConcat) : Parser OpenConcat := do
  match ← parseGroup with
  | .flags items span =>
    if let some v := flagState items .ignoreSpace then
      modify fun s => { s with ignoreSpace := v }
    return { concat with items := .setFlags items span :: concat.items }
  | .group kind opening =>
    let s ← get
    let old := s.ignoreSpace
    let new := match kind with
      | .plain items => (flagState items .ignoreSpace).getD old
      | .capture _ => old
    set { s with groups := .group concat kind opening old :: s.groups, ignoreSpace := new }
    return ⟨[], s.pos⟩

/-- Closes the innermost group at `)`. -/
def popGroup (groupConcat : OpenConcat) : Parser OpenConcat := do
  let s ← get
  let sp ← spanChar
  let (before, kind, opening, ign, alt, rest) ← match s.groups with
    | .group before kind opening ign :: rest => pure (before, kind, opening, ign, none, rest)
    | .alternation branches start :: .group before kind opening ign :: rest =>
      pure (before, kind, opening, ign, some (branches, start), rest)
    | _ => fail .groupUnopened sp
  set { s with groups := rest, ignoreSpace := ign }
  let _ ← bump
  let last := groupConcat.toAst ⟨groupConcat.start, sp.start⟩
  let body := match alt with
    | some (branches, start) => .alternation (branches ++ [last]) ⟨start, sp.start⟩
    | none => last
  let span : Span := ⟨opening.start, sp.stop⟩
  let group := match kind with
    | .capture i => Ast.group (some i) [] body span
    | .plain items => Ast.group none items body span
  return { before with items := group :: before.items }

/-- Ends a branch at `|`. -/
def pushAlternate (concat : OpenConcat) : Parser OpenConcat := do
  let here ← pos
  let branch := concat.toAst ⟨concat.start, here⟩
  modify fun s => match s.groups with
    | .alternation branches start :: rest =>
      { s with groups := .alternation (branches ++ [branch]) start :: rest }
    | gs => { s with groups := .alternation [branch] concat.start :: gs }
  let _ ← bump
  return ⟨[], here + 1⟩

/-- Ends the pattern: every group must be closed. -/
def popGroupEnd (concat : OpenConcat) : Parser Ast := do
  let s ← get
  let last := concat.toAst ⟨concat.start, s.pos⟩
  match s.groups with
  | [] => return last
  | [.alternation branches start] => return .alternation (branches ++ [last]) ⟨start, s.pos⟩
  | .alternation .. :: .group _ _ opening _ :: _ => fail .groupUnclosed opening
  | .group _ _ opening _ :: _ => fail .groupUnclosed opening
  | .alternation .. :: .alternation .. :: _ => return last

/-- Applies `?`, `*` or `+` to the last item. -/
def parseUncountedRepetition (concat : OpenConcat) : Parser OpenConcat := do
  let c ← char
  let (lo, hi) : Nat × Option Nat :=
    if c = '?' then (0, some 1) else if c = '*' then (0, none) else (1, none)
  let here ← spanHere
  match concat.items with
  | [] => fail .repetitionMissing here
  | .empty _ :: _ => fail .repetitionMissing here
  | .setFlags .. :: _ => fail .repetitionMissing here
  | ast :: rest =>
    let mut greedy := true
    if ← bump then
      if (← char) = '?' then
        greedy := false
        let _ ← bump
    let span : Span := ⟨ast.span.start, ← pos⟩
    return { concat with items := .repetition ast lo hi greedy span :: rest }

/-- Applies `{m}`, `{m,}` or `{m,n}` to the last item. -/
def parseCountedRepetition (concat : OpenConcat) : Parser OpenConcat := do
  let start ← pos
  let here ← spanHere
  let (ast, rest) ← match concat.items with
    | [] => fail .repetitionMissing here
    | .empty _ :: _ => fail .repetitionMissing here
    | .setFlags .. :: _ => fail .repetitionMissing here
    | a :: rest => pure (a, rest)
  if !(← bumpAndBumpSpace) then
    let p ← pos
    fail .repetitionCountUnclosed ⟨start, p⟩
  let countStart ← parseDecimal
  if ← isEof then
    let p ← pos
    fail .repetitionCountUnclosed ⟨start, p⟩
  let (lo, hi) ← do
    if (← char) = ',' then
      if !(← bumpAndBumpSpace) then
        let p ← pos
        fail .repetitionCountUnclosed ⟨start, p⟩
      if (← char) ≠ '}' then
        let lo ← ofExcept countStart
        let hi ← ofExcept (← parseDecimal)
        pure (lo, some hi)
      else
        let lo ← ofExcept countStart
        pure (lo, none)
    else
      let lo ← ofExcept countStart
      pure (lo, some lo)
  if (← isEof) || (← char) ≠ '}' then
    let p ← pos
    fail .repetitionCountUnclosed ⟨start, p⟩
  let mut greedy := true
  if ← bumpAndBumpSpace then
    if (← char) = '?' then
      greedy := false
      let _ ← bump
  let p ← pos
  if let some h := hi then
    if lo > h then fail .repetitionCountInvalid ⟨start, p⟩
  return { concat with items := .repetition ast lo hi greedy ⟨ast.span.start, p⟩ :: rest }

/-- Reads the digits of `\x`, `\u` or `\U` in braces. -/
def readHexBraced : Nat → List Char → Parser (List Char)
  | 0, acc => pure acc
  | n + 1, acc => do
    if !(← bumpAndBumpSpace) then return acc
    let c ← char
    if c = '}' then return acc
    if !isHex c then
      let sp ← spanChar
      fail .escapeHexInvalidDigit sp
    readHexBraced n (acc ++ [c])

/-- Reads a fixed number of hexadecimal digits. -/
def readHexFixed : Nat → Nat → List Char → Parser (List Char)
  | 0, _, acc => pure acc
  | n + 1, i, acc => do
    if i > 0 then
      if !(← bumpAndBumpSpace) then
        let sp ← spanHere
        fail .escapeUnexpectedEof sp
    let c ← char
    if !isHex c then
      let sp ← spanChar
      fail .escapeHexInvalidDigit sp
    readHexFixed n (i + 1) (acc ++ [c])

/-- The character of a hexadecimal code point, if it is a Unicode scalar value; any
number of leading zeros is allowed. -/
def scalarOf (digits : List Char) : Option Char :=
  let v := Text.Compact.hexValue (String.ofList digits)
  if v.isValidChar then some (Char.ofNat v) else none

/-- Reads the code point of `\x`, `\u` or `\U`: the character, the byte of a two-digit
`\x`, and the offset after it. -/
def parseHex : Parser (Char × Option Nat × Nat) := do
  let kind ← char
  let count := if kind = 'x' then 2 else if kind = 'u' then 4 else 8
  if !(← bumpAndBumpSpace) then
    let sp ← spanHere
    fail .escapeUnexpectedEof sp
  if (← char) = '{' then
    let bracePos ← pos
    let start := bracePos + 1
    let digits ← readHexBraced (← fuel) []
    if ← isEof then
      let p ← pos
      fail .escapeUnexpectedEof ⟨bracePos, p⟩
    let stop ← pos
    let _ ← bumpAndBumpSpace
    if digits.isEmpty then
      let p ← pos
      fail .escapeHexEmpty ⟨bracePos, p⟩
    match scalarOf digits with
    | some c => return (c, none, ← pos)
    | none => fail .escapeHexInvalid ⟨start, stop⟩
  else
    let start ← pos
    let digits ← readHexFixed count 0 []
    let _ ← bumpAndBumpSpace
    let stop ← pos
    match scalarOf digits with
    | some c => return (c, if kind = 'x' then some c.toNat else none, stop)
    | none => fail .escapeHexInvalid ⟨start, stop⟩

/-- Reads the name of `\p{..}` up to the closing brace. -/
def readPropertyName : Nat → List Char → Parser (List Char)
  | 0, acc => pure acc
  | n + 1, acc => do
    if !(← bumpAndBumpSpace) then return acc
    let c ← char
    if c = '}' then return acc
    readPropertyName n (acc ++ [c])

/-- The position of the first occurrence of a text in another. -/
def findText (hay needle : List Char) : Option Nat :=
  let rec go : Nat → List Char → Option Nat
    | _, [] => if needle.isEmpty then some hay.length else none
    | i, h :: t => if (h :: t).take needle.length == needle then some i else go (i + 1) t
  go 0 hay

/-- Reads `\p` or `\P` after the backslash: the query, its negation and the offset after. -/
def parseUnicodeClass : Parser (PropertyQuery × Bool × Nat) := do
  let negated := (← char) = 'P'
  if !(← bumpAndBumpSpace) then
    let sp ← spanHere
    fail .escapeUnexpectedEof sp
  if (← char) = '{' then
    let name ← readPropertyName (← fuel) []
    if ← isEof then
      let sp ← spanHere
      fail .escapeUnexpectedEof sp
    let _ ← bump
    let text (cs : List Char) := String.ofList cs
    let query : PropertyQuery :=
      match findText name ['!', '='] with
      | some i => .byValue (text (name.take i)) (text (name.drop (i + 2))) false
      | none =>
        match findText name [':'] with
        | some i => .byValue (text (name.take i)) (text (name.drop (i + 1))) true
        | none =>
          match findText name ['='] with
          | some i => .byValue (text (name.take i)) (text (name.drop (i + 1))) true
          | none => .named (text name)
    return (query, negated, ← pos)
  else
    let c ← char
    if c = '\\' then
      let sp ← spanChar
      fail .unicodeClassInvalid sp
    let _ ← bumpAndBumpSpace
    return (.oneLetter c, negated, ← pos)

/-- Whether a character may stand in the name of a special word boundary. -/
def isBoundaryNameChar (c : Char) : Bool :=
  ('A' ≤ c && c ≤ 'Z') || ('a' ≤ c && c ≤ 'z') || c = '-'

/-- Reads the letters of a special word boundary name. -/
def readBoundaryName : Nat → List Char → Parser (List Char)
  | 0, acc => pure acc
  | n + 1, acc => do
    match ← char? with
    | some c =>
      if isBoundaryNameChar c then
        let _ ← bumpAndBumpSpace
        readBoundaryName n (acc ++ [c])
      else pure acc
    | none => pure acc

/-- After `\b` and at `{`: a special word boundary such as `\b{start}`, or nothing (and
no move) when the brace starts a counted repetition instead. -/
def maybeParseSpecialWordBoundary (wbStart : Nat) : Parser (Option Assertion) := do
  let start ← pos
  if !(← bumpAndBumpSpace) then
    let p ← pos
    fail .specialWordOrRepetitionUnexpectedEof ⟨wbStart, p⟩
  let startContents ← pos
  if !isBoundaryNameChar (← char) then
    modify fun s => { s with pos := start }
    return none
  let name ← readBoundaryName (← fuel) []
  if (← isEof) || (← char) ≠ '}' then
    let p ← pos
    fail .specialWordBoundaryUnclosed ⟨start, p⟩
  let stop ← pos
  let _ ← bump
  match String.ofList name with
  | "start" => return some .wordStart
  | "end" => return some .wordEnd
  | "start-half" => return some .wordStartHalf
  | "end-half" => return some .wordEndHalf
  | _ => fail .specialWordBoundaryUnrecognized ⟨startContents, stop⟩

/-- Reads an escape at a backslash. -/
def parseEscape : Parser Prim := do
  let start ← pos
  if !(← bump) then
    let p ← pos
    fail .escapeUnexpectedEof ⟨start, p⟩
  let c ← char
  if '0' ≤ c && c ≤ '9' then
    let p ← pos
    fail .unsupportedBackreference ⟨start, p + 1⟩
  if c = 'x' ∨ c = 'u' ∨ c = 'U' then
    let (ch, byte, stop) ← parseHex
    return ⟨.literal ch byte, ⟨start, stop⟩⟩
  if c = 'p' ∨ c = 'P' then
    let (query, negated, stop) ← parseUnicodeClass
    return ⟨.unicode query negated, ⟨start, stop⟩⟩
  let perl : Option (PerlClass × Bool) := match c with
    | 'd' => some (.digit, false)
    | 'D' => some (.digit, true)
    | 's' => some (.space, false)
    | 'S' => some (.space, true)
    | 'w' => some (.word, false)
    | 'W' => some (.word, true)
    | _ => none
  if let some (kind, negated) := perl then
    let _ ← bump
    let p ← pos
    return ⟨.perl kind negated, ⟨start, p⟩⟩
  let _ ← bump
  let p ← pos
  let span : Span := ⟨start, p⟩
  if isEscapable c then return ⟨.literal c none, span⟩
  match c with
  | 'a' => return ⟨.literal '\x07' none, span⟩
  | 'f' => return ⟨.literal '\x0C' none, span⟩
  | 't' => return ⟨.literal '\t' none, span⟩
  | 'n' => return ⟨.literal '\n' none, span⟩
  | 'r' => return ⟨.literal '\r' none, span⟩
  | 'v' => return ⟨.literal '\x0B' none, span⟩
  | 'A' => return ⟨.assertion .startText, span⟩
  | 'z' => return ⟨.assertion .endText, span⟩
  | 'b' =>
    if !(← isEof) && (← char) = '{' then
      match ← maybeParseSpecialWordBoundary start with
      | some kind =>
        let q ← pos
        return ⟨.assertion kind, ⟨start, q⟩⟩
      | none => return ⟨.assertion .wordBoundary, span⟩
    else return ⟨.assertion .wordBoundary, span⟩
  | 'B' => return ⟨.assertion .notWordBoundary, span⟩
  | '<' => return ⟨.assertion .wordStart, span⟩
  | '>' => return ⟨.assertion .wordEnd, span⟩
  | _ => fail .escapeUnrecognized span

/-- Reads a primitive outside a class. -/
def parsePrimitive : Parser Prim := do
  let c ← char
  let sp ← spanChar
  if c = '\\' then parseEscape
  else
    let _ ← bump
    if c = '.' then return ⟨.dot, sp⟩
    if c = '^' then return ⟨.assertion .startLine, sp⟩
    if c = '$' then return ⟨.assertion .endLine, sp⟩
    return ⟨.literal c none, sp⟩

/-- The error of a bracket left open: at the innermost open bracket. -/
def unclosedClass {α : Type} : Parser α := do
  let s ← get
  let opening := s.classes.findSome? fun f =>
    match f with
    | .opened _ _ sp => some sp
    | .operator .. => none
  fail .classUnclosed (opening.getD ⟨0, 0⟩)

/-- Reads `[`, `[^` and the literal `-` and `]` that may follow: the negation, the span of
the opening, and the union begun with the items read. -/
def parseSetClassOpen : Parser (Bool × Span × OpenUnion) := do
  let start ← pos
  if !(← bumpAndBumpSpace) then
    let p ← pos
    fail .classUnclosed ⟨start, p⟩
  let mut negated := false
  if (← char) = '^' then
    if !(← bumpAndBumpSpace) then
      let p ← pos
      fail .classUnclosed ⟨start, p⟩
    negated := true
  let unionStart ← pos
  let union ← dashes start (← fuel) []
  let mut union := union
  if union.isEmpty && (← char) = ']' then
    let sp ← spanChar
    union := [.literal ⟨']', none, sp⟩]
    if !(← bumpAndBumpSpace) then
      let p ← pos
      fail .classUnclosed ⟨start, p⟩
  let p ← pos
  return (negated, ⟨start, p⟩, ⟨union, unionStart⟩)
where
  /-- literal dashes at the start of a bracket -/
  dashes (start : Nat) : Nat → List ClassItem → Parser (List ClassItem)
    | 0, acc => pure acc
    | n + 1, acc => do
      if (← char?) = some '-' then
        let sp ← spanChar
        if !(← bumpAndBumpSpace) then fail .classUnclosed ⟨start, start⟩
        dashes start n (.literal ⟨'-', none, sp⟩ :: acc)
      else pure acc

/-- Opens a nested bracket. -/
def pushClassOpen (parent : OpenUnion) : Parser OpenUnion := do
  let (negated, opening, nested) ← parseSetClassOpen
  modify fun s => { s with classes := .opened parent negated opening :: s.classes }
  return nested

/-- Completes a pending set operator with its right side. -/
def popClassOp (rhs : ClassItem) : Parser ClassItem := do
  let s ← get
  match s.classes with
  | .operator kind lhs :: rest =>
    set { s with classes := rest }
    return .op kind lhs rhs
  | _ => return rhs

/-- Starts a set operator, right after it. -/
def pushClassOp (kind : SetOp) (union : OpenUnion) : Parser OpenUnion := do
  let lhs ← popClassOp union.toItem
  modify fun s => { s with classes := .operator kind lhs :: s.classes }
  return ⟨[], ← pos⟩

/-- Closes the innermost bracket at `]`: the enclosing items, or the whole class when it
was the outermost. -/
def popClass (union : OpenUnion) :
    Parser (Sum OpenUnion (Bool × ClassItem × Span)) := do
  let body ← popClassOp union.toItem
  let s ← get
  match s.classes with
  | .opened parent negated opening :: rest =>
    set { s with classes := rest }
    let _ ← bump
    let p ← pos
    let span : Span := ⟨opening.start, p⟩
    if rest.isEmpty then return .inr (negated, body, span)
    return .inl { parent with items := .bracket negated body span :: parent.items }
  | _ => return .inl union

/-- Reads a POSIX class such as `[:alpha:]`, or nothing (and no move). -/
def maybeParseAsciiClass : Parser (Option ClassItem) := do
  let start ← pos
  let reset : Parser (Option ClassItem) := do
    modify fun s => { s with pos := start }
    return none
  if !(← bump) then return (← reset)
  if (← char) ≠ ':' then return (← reset)
  if !(← bump) then return (← reset)
  let mut negated := false
  if (← char) = '^' then
    negated := true
    if !(← bump) then return (← reset)
  let nameStart ← pos
  toColon (← fuel)
  if ← isEof then return (← reset)
  let nameStop ← pos
  let s ← get
  let name := String.ofList (s.pattern.extract nameStart nameStop).toList
  if !(← bumpIf ":]") then return (← reset)
  match AsciiClass.ofName name with
  | some kind =>
    let p ← pos
    return some (.ascii kind negated ⟨start, p⟩)
  | none => reset
where
  /-- moves to the next colon -/
  toColon : Nat → Parser Unit
    | 0 => pure ()
    | n + 1 => do
      if (← char) ≠ ':' then
        if ← bump then toColon n

/-- Reads one item of a class: an escape or a literal character. -/
def parseSetClassItem : Parser Prim := do
  if (← char) = '\\' then parseEscape
  else
    let c ← char
    let sp ← spanChar
    let _ ← bump
    return ⟨.literal c none, sp⟩

/-- The class item a primitive stands for. -/
def intoClassItem (p : Prim) : Parser ClassItem :=
  match p.prim with
  | .literal c byte => pure (.literal ⟨c, byte, p.span⟩)
  | .perl kind negated => pure (.perl kind negated p.span)
  | .unicode query negated => pure (.unicode query negated p.span)
  | _ => fail .classEscapeInvalid p.span

/-- The literal end of a range. -/
def intoClassChar (p : Prim) : Parser ClassChar :=
  match p.prim with
  | .literal c byte => pure ⟨c, byte, p.span⟩
  | _ => fail .classRangeLiteral p.span

/-- Reads a class item or a range `a-b`. -/
def parseSetClassRange : Parser ClassItem := do
  let prim1 ← parseSetClassItem
  bumpSpace
  if ← isEof then unclosedClass
  let c ← char
  let next ← peekSpace
  if c ≠ '-' || next = some ']' || next = some '-' then
    return (← intoClassItem prim1)
  if !(← bumpAndBumpSpace) then unclosedClass
  let prim2 ← parseSetClassItem
  let a ← intoClassChar prim1
  let b ← intoClassChar prim2
  let span : Span := ⟨prim1.span.start, prim2.span.stop⟩
  if a.c > b.c then fail .classRangeInvalid span
  return .range a b

/-- Reads a bracket class from its `[` to its `]`. -/
def parseSetClass : Nat → OpenUnion → Parser Ast
  | 0, _ => unclosedClass
  | n + 1, union => do
    bumpSpace
    if ← isEof then unclosedClass
    let c ← char
    if c = '[' then
      if !(← get).classes.isEmpty then
        match ← maybeParseAsciiClass with
        | some item => return (← parseSetClass n { union with items := item :: union.items })
        | none => pure ()
      let nested ← pushClassOpen union
      parseSetClass n nested
    else if c = ']' then
      match ← popClass union with
      | .inl outer => parseSetClass n outer
      | .inr (negated, body, span) => return .bracket negated body span
    else
      let next ← peek
      if c = '&' && next = some '&' then
        let _ ← bumpIf "&&"
        parseSetClass n (← pushClassOp .intersection union)
      else if c = '-' && next = some '-' then
        let _ ← bumpIf "--"
        parseSetClass n (← pushClassOp .difference union)
      else if c = '~' && next = some '~' then
        let _ ← bumpIf "~~"
        parseSetClass n (← pushClassOp .symmetricDifference union)
      else
        let item ← parseSetClassRange
        parseSetClass n { union with items := item :: union.items }

/-- Reads items until the pattern ends. -/
def parseItems : Nat → OpenConcat → Parser Ast
  | 0, concat => popGroupEnd concat
  | n + 1, concat => do
    bumpSpace
    match ← char? with
    | none => popGroupEnd concat
    | some c =>
      let concat ← match c with
        | '(' => pushGroup concat
        | ')' => popGroup concat
        | '|' => pushAlternate concat
        | '[' => do
          let f ← fuel
          let cls ← parseSetClass f ⟨[], ← pos⟩
          pure { concat with items := cls :: concat.items }
        | '?' => parseUncountedRepetition concat
        | '*' => parseUncountedRepetition concat
        | '+' => parseUncountedRepetition concat
        | '{' => parseCountedRepetition concat
        | _ => do
          let p ← parsePrimitive
          pure { concat with items := p.toAst :: concat.items }
      parseItems n concat

end Parser

mutual

/-- The first class item, in reading order, nested more than `nestLimit` deep below a
depth of `d`, by its span. A bracket, a union of several items and a set operation each
count as one level. -/
def classTooDeep (d : Nat) : ClassItem → Option Span
  | .bracket _ body sp => if d + 1 > nestLimit then some sp else classTooDeep (d + 1) body
  | .union [] _ => none
  | .union items sp => if d + 1 > nestLimit then some sp else classListTooDeep (d + 1) items
  | .op _ lhs rhs =>
    if d + 1 > nestLimit then some ⟨lhs.span.start, rhs.span.stop⟩
    else (classTooDeep (d + 1) lhs).orElse fun _ => classTooDeep (d + 1) rhs
  | _ => none

/-- The first of a list of class items nested too deep. -/
def classListTooDeep (d : Nat) : List ClassItem → Option Span
  | [] => none
  | x :: xs => (classTooDeep d x).orElse fun _ => classListTooDeep d xs

end

mutual

/-- The first item of a pattern, in reading order, nested more than `nestLimit` deep
below a depth of `d`, by its span. Groups, repetitions, concatenations, alternations and
brackets each count as one level. -/
def tooDeep (d : Nat) : Ast → Option Span
  | .bracket _ body sp => if d + 1 > nestLimit then some sp else classTooDeep (d + 1) body
  | .repetition body _ _ _ sp => if d + 1 > nestLimit then some sp else tooDeep (d + 1) body
  | .group _ _ body sp => if d + 1 > nestLimit then some sp else tooDeep (d + 1) body
  | .concat items sp => if d + 1 > nestLimit then some sp else listTooDeep (d + 1) items
  | .alternation items sp => if d + 1 > nestLimit then some sp else listTooDeep (d + 1) items
  | _ => none

/-- The first of a list of items nested too deep. -/
def listTooDeep (d : Nat) : List Ast → Option Span
  | [] => none
  | x :: xs => (tooDeep d x).orElse fun _ => listTooDeep d xs

end

/-- A parsed pattern with the number of its capture groups and its capture names. -/
structure Parsed where
  ast : Ast
  captures : Nat
  names : List (String × Nat)

/-- Parses a pattern, blank-insensitive from the start if asked. -/
def parse (pattern : String) (ignoreSpace : Bool) : Except SyntaxError Parsed :=
  let chars := pattern.toList.toArray
  let start : ParseState :=
    { pattern := chars, pos := 0, ignoreSpace := ignoreSpace, captures := 0, names := [],
      groups := [], classes := [] }
  match (Parser.parseItems (chars.size + 1) ⟨[], 0⟩).run start with
  | .ok (ast, s) =>
    match tooDeep 0 ast with
    | some span => .error ⟨.nestLimitExceeded, span, none⟩
    | none => .ok ⟨ast, s.captures, s.names.map fun n => (n.1, n.2.2)⟩
  | .error e => .error e

end Regex

end ScriptLib
