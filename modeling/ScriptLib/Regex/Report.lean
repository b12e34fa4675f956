import ScriptLib.Regex.Syntax

/-!
# Reporting pattern errors

An error in a pattern is reported with the pattern and a line of carets under the span of
the error (and under the first occurrence, for a duplicate):

```
regex parse error:
    (
    ^
error: unclosed group
```

Columns count characters; an empty span still gets one caret. A pattern of several lines
is framed by two rules of 79 tildes, each line numbered, right-aligned to the width of
the largest number; a span that runs over several lines is named by its lines and
columns below the frame instead.
-/

namespace ScriptLib

namespace Regex

/-- The line and column, both from 1, of an offset of a pattern. -/
def lineCol (p : Array Char) (offset : Nat) : Nat × Nat :=
  let before := (p.extract 0 offset).toList
  (1 + before.count '\n', 1 + (before.reverse.takeWhile (· != '\n')).length)

/-- The lines of a text: split at line feeds, a carriage return before a line feed
dropped, and no empty line after a final line feed. -/
def textLines (s : String) : List String :=
  let pieces := s.splitOn "\n"
  let count := pieces.length
  let trimmed := (List.range count).zip pieces |>.filterMap fun (i, piece) =>
    if i + 1 < count then
      some (if piece.endsWith "\r" then String.ofList piece.toList.dropLast else piece)
    else if piece.isEmpty then none
    else some piece
  trimmed

/-- A line of `n` copies of a character. -/
def repeatChar (c : Char) (n : Nat) : String :=
  String.ofList (List.replicate n c)

/-- The caret line under one line of the pattern, for the spans on it (sorted), after the
left padding. -/
def caretLine (p : Array Char) (padding : Nat) (spans : List Span) : String :=
  let step := fun (acc : String × Nat) (sp : Span) =>
    let (text, col) := acc
    let startCol := (lineCol p sp.start).2
    let stopCol := (lineCol p sp.stop).2
    let gap := startCol - 1 - col
    let carets := max 1 (stopCol - startCol)
    let col' := (if startCol - 1 > col then startCol - 1 else col) + carets
    (text ++ repeatChar ' ' gap ++ repeatChar '^' carets, col')
  (spans.foldl step (repeatChar ' ' padding, 0)).1

/-- The decimal digits of a number. -/
def digitCount (n : Nat) : Nat := (toString n).length

/-- The report of an error in a pattern. -/
def report (pattern : String) (e : SyntaxError) : String :=
  if e.kind == .tooBig then e.kind.message else
  let p := pattern.toList.toArray
  let lines := textLines pattern
  let lineCount := lines.length + (if pattern.endsWith "\n" then 1 else 0)
  let width := if lineCount ≤ 1 then 0 else digitCount lineCount
  let padding := if width = 0 then 4 else 2 + width
  let spans := e.span :: e.aux.toList
  let sorted := spans.mergeSort fun a b =>
    a.start < b.start || (a.start == b.start && a.stop ≤ b.stop)
  let oneLine (sp : Span) := (lineCol p sp.start).1 == (lineCol p sp.stop).1
  let notated := (List.range lines.length).zip lines |>.foldl (fun acc (i, line) =>
    let number := toString (i + 1)
    let head :=
      if width > 0 then repeatChar ' ' (width - number.length) ++ number ++ ": " else "    "
    let onLine := sorted.filter fun sp => oneLine sp && (lineCol p sp.start).1 == i + 1
    let notes := if onLine.isEmpty then "" else caretLine p padding onLine ++ "\n"
    acc ++ head ++ line ++ "\n" ++ notes) ""
  if pattern.toList.contains '\n' then
    let divider := repeatChar '~' 79
    let multi := sorted.filter fun sp => !oneLine sp
    let notes := multi.map fun sp =>
      let (l1, c1) := lineCol p sp.start
      let (l2, c2) := lineCol p sp.stop
      s!"on line {l1} (column {c1}) through line {l2} (column {c2 - 1})"
    let noteText := if notes.isEmpty then "" else "\n".intercalate notes ++ "\n"
    "regex parse error:\n" ++ divider ++ "\n" ++ notated ++ divider ++ "\n" ++ noteText ++
      "error: " ++ e.kind.message
  else
    "regex parse error:\n" ++ notated ++ "error: " ++ e.kind.message

end Regex

end ScriptLib
