import ScriptLib.Regex.Classes

/-!
# The syntax of patterns

A pattern parses to a tree: literals, the dot, assertions, classes, repetitions, groups,
flag settings, concatenations and alternations. Positions in a pattern are character
offsets; a `Span` is the half-open range of offsets a piece of the pattern covers, and
every error names the span where it was found (and for duplicates, the span of the
first occurrence too).

The flags are `i` (ignore case), `m` (`^` and `$` at line ends), `s` (the dot matches a
line feed), `U` (repetitions lazy by default), `u` (Unicode classes), `R` (carriage
return and line feed end lines) and `x` (blanks and `#` comments ignored).
-/

namespace ScriptLib

namespace Regex

/-- A half-open range of character offsets in a pattern. -/
structure Span where
  start : Nat
  stop : Nat
  deriving BEq, Repr, Inhabited

/-- A flag of a pattern. -/
inductive Flag where
  | caseless
  | multiLine
  | dotAll
  | swapGreed
  | unicode
  | crlf
  | ignoreSpace
  deriving BEq, Repr, Inhabited

/-- An item of a flag group: a flag, or the negation that turns the flags after it off. -/
inductive FlagItem where
  | negation
  | flag (f : Flag)
  deriving BEq, Repr, Inhabited

/-- A zero-width assertion. -/
inductive Assertion where
  /-- `^` -/
  | startLine
  /-- `$` -/
  | endLine
  /-- `\A` -/
  | startText
  /-- `\z` -/
  | endText
  /-- `\b` -/
  | wordBoundary
  /-- `\B` -/
  | notWordBoundary
  /-- `\<` or `\b{start}` -/
  | wordStart
  /-- `\>` or `\b{end}` -/
  | wordEnd
  /-- `\b{start-half}` -/
  | wordStartHalf
  /-- `\b{end-half}` -/
  | wordEndHalf
  deriving BEq, Repr, Inhabited

/-- What `\p{..}` asks for. -/
inductive PropertyQuery where
  /-- `\pL`: a one-letter name -/
  | oneLetter (c : Char)
  /-- `\p{Greek}` -/
  | named (name : String)
  /-- `\p{sc=Greek}`, `\p{sc:Greek}`; `equal` is false for `\p{sc!=Greek}` -/
  | byValue (name value : String) (equal : Bool)
  deriving BEq, Repr, Inhabited

/-- A literal character of a class, with its span and, for `\xNN`, the byte it names. -/
structure ClassChar where
  c : Char
  byte : Option Nat
  span : Span
  deriving BEq, Repr, Inhabited

/-- The set operators of bracket classes. -/
inductive SetOp where
  /-- `&&` -/
  | intersection
  /-- `--` -/
  | difference
  /-- `~~` -/
  | symmetricDifference
  deriving BEq, Repr, Inhabited

/-- The body of a bracket class. -/
inductive ClassItem where
  | literal (x : ClassChar)
  | range (a b : ClassChar)
  | ascii (kind : AsciiClass) (negated : Bool) (span : Span)
  | perl (kind : PerlClass) (negated : Bool) (span : Span)
  | unicode (query : PropertyQuery) (negated : Bool) (span : Span)
  | bracket (negated : Bool) (body : ClassItem) (span : Span)
  /-- items side by side; with none, the empty set at the position of `span` -/
  | union (items : List ClassItem) (span : Span)
  | op (kind : SetOp) (lhs rhs : ClassItem)
  deriving Repr, Inhabited

/-- The span of a class item; an operation covers both its sides. -/
def ClassItem.span : ClassItem → Span
  | .literal x => x.span
  | .range a b => ⟨a.span.start, b.span.stop⟩
  | .ascii _ _ sp => sp
  | .perl _ _ sp => sp
  | .unicode _ _ sp => sp
  | .bracket _ _ sp => sp
  | .union _ sp => sp
  | .op _ lhs rhs => ⟨lhs.span.start, rhs.span.stop⟩

/-- A parsed pattern. -/
inductive Ast where
  | empty (span : Span)
  /-- `(?flags)`: changes the flags for the rest of the enclosing group -/
  | setFlags (items : List FlagItem) (span : Span)
  /-- a character; `byte` is the value of a `\xNN` escape -/
  | literal (c : Char) (byte : Option Nat) (span : Span)
  | dot (span : Span)
  | assertion (kind : Assertion) (span : Span)
  | perl (kind : PerlClass) (negated : Bool) (span : Span)
  | unicode (query : PropertyQuery) (negated : Bool) (span : Span)
  | bracket (negated : Bool) (body : ClassItem) (span : Span)
  /-- between `min` and `max` (unbounded for none) copies -/
  | repetition (body : Ast) (min : Nat) (max : Option Nat) (greedy : Bool) (span : Span)
  /-- a group: capturing with its index, or not, with flags for its body -/
  | group (capture : Option Nat) (flags : List FlagItem) (body : Ast) (span : Span)
  | concat (items : List Ast) (span : Span)
  | alternation (items : List Ast) (span : Span)
  deriving Repr, Inhabited

/-- The span of an item of a pattern. -/
def Ast.span : Ast → Span
  | .empty sp => sp
  | .setFlags _ sp => sp
  | .literal _ _ sp => sp
  | .dot sp => sp
  | .assertion _ sp => sp
  | .perl _ _ sp => sp
  | .unicode _ _ sp => sp
  | .bracket _ _ sp => sp
  | .repetition _ _ _ _ sp => sp
  | .group _ _ _ sp => sp
  | .concat _ sp => sp
  | .alternation _ sp => sp

/-- The kinds of errors in a pattern. -/
inductive ErrorKind where
  | captureLimitExceeded
  | classEscapeInvalid
  | classRangeInvalid
  | classRangeLiteral
  | classUnclosed
  | decimalEmpty
  | decimalInvalid
  | escapeHexEmpty
  | escapeHexInvalid
  | escapeHexInvalidDigit
  | escapeUnexpectedEof
  | escapeUnrecognized
  | flagDanglingNegation
  | flagDuplicate
  | flagRepeatedNegation
  | flagUnexpectedEof
  | flagUnrecognized
  | groupNameDuplicate
  | groupNameEmpty
  | groupNameInvalid
  | groupNameUnexpectedEof
  | groupUnclosed
  | groupUnopened
  | nestLimitExceeded
  | repetitionCountInvalid
  | repetitionCountDecimalEmpty
  | repetitionCountUnclosed
  | repetitionMissing
  | specialWordBoundaryUnclosed
  | specialWordBoundaryUnrecognized
  | specialWordOrRepetitionUnexpectedEof
  | unicodeClassInvalid
  | unsupportedBackreference
  | unsupportedLookAround
  | unicodeNotAllowed
  | invalidUtf8
  | unicodePropertyNotFound
  | unicodePropertyValueNotFound
  | tooBig
  deriving BEq, Repr, Inhabited

/-- The largest number of capture groups. -/
def captureLimit : Nat := 4294967295

/-- The deepest nesting of groups, repetitions, concatenations, alternations and
brackets. -/
def nestLimit : Nat := 250

/-- The largest compiled pattern, in bytes. -/
def sizeLimit : Nat := 10485760

/-- What an error kind says. -/
def ErrorKind.message : ErrorKind → String
  | .captureLimitExceeded =>
    s!"exceeded the maximum number of capturing groups ({captureLimit})"
  | .classEscapeInvalid => "invalid escape sequence found in character class"
  | .classRangeInvalid => "invalid character class range, the start must be <= the end"
  | .classRangeLiteral => "invalid range boundary, must be a literal"
  | .classUnclosed => "unclosed character class"
  | .decimalEmpty => "decimal literal empty"
  | .decimalInvalid => "decimal literal invalid"
  | .escapeHexEmpty => "hexadecimal literal empty"
  | .escapeHexInvalid => "hexadecimal literal is not a Unicode scalar value"
  | .escapeHexInvalidDigit => "invalid hexadecimal digit"
  | .escapeUnexpectedEof => "incomplete escape sequence, reached end of pattern prematurely"
  | .escapeUnrecognized => "unrecognized escape sequence"
  | .flagDanglingNegation => "dangling flag negation operator"
  | .flagDuplicate => "duplicate flag"
  | .flagRepeatedNegation => "flag negation operator repeated"
  | .flagUnexpectedEof => "expected flag but got end of regex"
  | .flagUnrecognized => "unrecognized flag"
  | .groupNameDuplicate => "duplicate capture group name"
  | .groupNameEmpty => "empty capture group name"
  | .groupNameInvalid => "invalid capture group character"
  | .groupNameUnexpectedEof => "unclosed capture group name"
  | .groupUnclosed => "unclosed group"
  | .groupUnopened => "unopened group"
  | .nestLimitExceeded =>
    s!"exceed the maximum number of nested parentheses/brackets ({nestLimit})"
  | .repetitionCountInvalid => "invalid repetition count range, the start must be <= the end"
  | .repetitionCountDecimalEmpty => "repetition quantifier expects a valid decimal"
  | .repetitionCountUnclosed => "unclosed counted repetition"
  | .repetitionMissing => "repetition operator missing expression"
  | .specialWordBoundaryUnclosed =>
    "special word boundary assertion is either unclosed or contains an invalid character"
  | .specialWordBoundaryUnrecognized =>
    "unrecognized special word boundary assertion, valid choices are: start, end, start-half or end-half"
  | .specialWordOrRepetitionUnexpectedEof =>
    "found either the beginning of a special word boundary or a bounded repetition on a \\b with an opening brace, but no closing brace"
  | .unicodeClassInvalid => "invalid Unicode character class"
  | .unsupportedBackreference => "backreferences are not supported"
  | .unsupportedLookAround =>
    "look-around, including look-ahead and look-behind, is not supported"
  | .unicodeNotAllowed => "Unicode not allowed here"
  | .invalidUtf8 => "pattern can match invalid UTF-8"
  | .unicodePropertyNotFound => "Unicode property not found"
  | .unicodePropertyValueNotFound => "Unicode property value not found"
  | .tooBig => s!"Compiled regex exceeds size limit of {sizeLimit} bytes."

/-- An error in a pattern: its kind, where it is, and where the first occurrence of a
duplicate is. -/
structure SyntaxError where
  kind : ErrorKind
  span : Span
  aux : Option Span
  deriving Repr, Inhabited

end Regex

end ScriptLib
