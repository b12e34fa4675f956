import ScriptLib.Text.Search

/-!
# Texts as UTF-8 bytes

The host keeps a text as its UTF-8 bytes and cuts it at byte offsets. An offset is a
character boundary at the start and at the end of the bytes and before each byte that does
not continue a character (`isCharBoundary`); a cut at any other offset, or with its ends out
of order, is a host panic, answered here with the offset at fault (`sliceBytes`). Between two
boundaries lie the characters that start there.

Script texts count characters, so the searches and the slices of the library go from
characters to bytes and back: character `i` starts at byte `byteOffset t i`, the end of the
bytes standing for every position past the last character, and a byte offset is turned back
into a position by counting the characters of the part before it.

* `charSlice t a c` cuts from the offset of character `a` to that of `c`, or of `a` when `c`
  comes first;
* `charFind t n s` looks for the bytes of `n` in the part from the offset of character `s`,
  none when `s` is past the end, and counts the characters before the match;
* `charRfind t n b` tries the starts of characters `b, b - 1, …, 0` in turn and takes the
  first after which the bytes begin with those of `n`; the empty needle is answered with
  `min b |t|`.
-/

namespace ScriptLib

namespace Text

/-- The UTF-8 bytes of a text. -/
def utf8 (t : List Char) : List UInt8 :=
  t.flatMap String.utf8EncodeChar

/-- Whether a byte continues a character, `10xxxxxx`. -/
def isContinuation (b : UInt8) : Bool :=
  0x80 ≤ b && b < 0xC0

/-- Whether byte offset `i` of a text lies between two characters: at the start, at the end,
or before a byte that does not continue a character. -/
def isCharBoundary (t : List Char) (i : Nat) : Bool :=
  i == 0 || match (utf8 t)[i]? with
    | some b => !isContinuation b
    | none => i == (utf8 t).length

/-- The byte offsets at which the characters of a text start. -/
def charStarts : List Char → List Nat
  | [] => []
  | c :: r => 0 :: (charStarts r).map (· + c.utf8Size)

/-- The byte offset at which character `i` starts; past the last character, the end. -/
def byteOffset (t : List Char) (i : Nat) : Nat :=
  (charStarts t)[i]?.getD (utf8 t).length

/-- The number of characters that start before byte offset `k`. -/
def charsBefore (t : List Char) (k : Nat) : Nat :=
  (charStarts t).countP (· < k)

/-- The characters between byte offsets `a` and `c`, or the offset at fault: an end that is
not a boundary, `a` first, or `a` when `c` comes before it. -/
def sliceBytes (t : List Char) (a c : Nat) : Except Nat (List Char) :=
  if !isCharBoundary t a then .error a
  else if !isCharBoundary t c then .error c
  else if c < a then .error a
  else .ok ((t.drop (charsBefore t a)).take (charsBefore t c - charsBefore t a))

/-- The characters from position `a` to position `c`, none when `c` comes first. -/
def charSlice (t : List Char) (a c : Nat) : Except Nat (List Char) :=
  let start := byteOffset t a
  sliceBytes t start (max (byteOffset t c) start)

/-- The position of the first occurrence of `n` at or after character `s`. -/
def charFind (t n : List Char) (s : Nat) : Except Nat (Option Nat) := do
  if s > t.length then return none
  let start := byteOffset t s
  let rest ← sliceBytes t start (utf8 t).length
  match findIn (utf8 n) (utf8 rest) 0 with
  | none => return none
  | some pos =>
    let before ← sliceBytes t 0 (start + pos)
    return some before.length

/-- The position of the last occurrence of `n` at or before character `b`. -/
def charRfind (t n : List Char) (b : Nat) : Except Nat (Option Nat) :=
  let starts := charStarts t
  if n.isEmpty then .ok (some (min b starts.length))
  else
    Option.map Prod.snd <$> ((starts.zipIdx.take (b + 1)).reverse.findM? fun p => do
      let rest ← sliceBytes t p.1 (utf8 t).length
      return (utf8 n).isPrefixOf (utf8 rest))

end Text

end ScriptLib
