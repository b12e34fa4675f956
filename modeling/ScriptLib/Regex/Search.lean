import ScriptLib.Regex.Parse
import ScriptLib.Regex.Report
import ScriptLib.Regex.Program
import ScriptLib.Regex.Footprint

/-!
# Searching with patterns

A program runs over a text by simulating all its threads at once, one character at a
time. Threads are kept in order of preference, and at each position a state is entered
by the first thread that reaches it only. When a thread accepts, the threads it is
preferred over stop; the search ends when no thread is left after a match or the text
ends. While no match has been found, a new thread starts at every position, after all
others: so the match found starts as early as possible, and among the matches that start
there it is the one the pattern prefers (leftmost-first).

Successive matches are searched from the end of the previous one. An empty match right
at the end of the previous match is not taken; the search is repeated one character
later instead.

Splitting yields the pieces between matches, the last piece included even when empty.
Replacing substitutes each match (up to a limit, 0 for all) by the replacement, in which
`$$` stands for `$`, `$name` and `$7` for a group by name or number (the longest run of
letters, digits and underscores), and `${name}` for a group named up to the closing
brace; a group that did not take part, or that does not exist, stands for nothing, and a
`$` not followed by a reference stays.
-/

namespace ScriptLib

namespace Regex

/-- Whether a character is an ASCII word character. -/
def isWordAscii (c : Char) : Bool :=
  c.isAlphanum || c == '_'

/-- Whether a character is a Unicode word character. -/
def isWordUnicode (c : Char) : Bool :=
  if c.toNat ≤ 0x7F then isWordAscii c else perlWord.contains c.toNat

/-- Whether a test holds at a position of a text. -/
def Look.holds (l : Look) (text : Array Char) (at_ : Nat) : Bool :=
  let prev := if at_ = 0 then none else text[at_ - 1]?
  let next := text[at_]?
  let wordSide (unicode : Bool) (c : Option Char) : Bool :=
    match c with
    | some ch => if unicode then isWordUnicode ch else isWordAscii ch
    | none => false
  match l with
  | .start => at_ == 0
  | .finish => at_ ≥ text.size
  | .startLF => at_ == 0 || prev == some '\n'
  | .endLF => at_ ≥ text.size || next == some '\n'
  | .startCRLF => at_ == 0 || prev == some '\n' || (prev == some '\r' && next != some '\n')
  | .endCRLF => at_ ≥ text.size || next == some '\r' || (next == some '\n' && prev != some '\r')
  | .word u => wordSide u prev != wordSide u next
  | .notWord u => wordSide u prev == wordSide u next
  | .wordStart u => !wordSide u prev && wordSide u next
  | .wordEnd u => wordSide u prev && !wordSide u next
  | .wordStartHalf u => !wordSide u prev
  | .wordEndHalf u => !wordSide u next

/-- The capture slots of a thread. -/
abbrev Slots := Array (Option Nat)

/-- A thread: where it is in the program and what it has recorded. -/
structure Thread where
  pc : Nat
  slots : Slots

/-- The threads at one position, in order of preference, with the states they entered. -/
structure Threads where
  list : Array Thread
  seen : Array Bool

/-- No threads, for a program of `n` instructions. -/
def Threads.empty (n : Nat) : Threads :=
  ⟨#[], Array.replicate n false⟩

/-- The bound on the steps of following the empty moves of a program: each state is
entered once, and each entry pushes at most its targets. -/
def Program.budget (p : Program) : Nat :=
  p.insts.foldl (fun n i =>
    n + 1 + match i with
      | .split ts => ts.length
      | .look .. => 1
      | .save .. => 1
      | _ => 0) 1

/-- Follows the moves that take no character from the pending entries, depth first in
order of preference; threads stop at instructions that take a character or accept. -/
def closure (p : Program) (text : Array Char) (at_ : Nat) :
    Nat → List (Nat × Slots) → Threads → Threads
  | 0, _, ts => ts
  | _, [], ts => ts
  | fuel + 1, (pc, slots) :: stack, ts =>
    if ts.seen.getD pc true then closure p text at_ fuel stack ts
    else
      let ts := { ts with seen := ts.seen.setIfInBounds pc true }
      match p.insts[pc]? with
      | some (.split targets) =>
        closure p text at_ fuel (targets.map (fun t => (t, slots)) ++ stack) ts
      | some (.look l next) =>
        if l.holds text at_ then closure p text at_ fuel ((next, slots) :: stack) ts
        else closure p text at_ fuel stack ts
      | some (.save k next) =>
        closure p text at_ fuel ((next, slots.setIfInBounds k (some at_)) :: stack) ts
      | some _ => closure p text at_ fuel stack { ts with list := ts.list.push ⟨pc, slots⟩ }
      | none => closure p text at_ fuel stack ts

/-- Moves the threads over the character at `at_` into `next`; the slots of an accepting
thread, which stops the threads after it. -/
def advance (p : Program) (text : Array Char) (at_ budget : Nat) :
    List Thread → Threads → Threads × Option Slots
  | [], next => (next, none)
  | t :: rest, next =>
    match p.insts[t.pc]? with
    | some .done => (next, some t.slots)
    | some (.chars s n) =>
      match text[at_]? with
      | some c =>
        if s.contains c.toNat then
          advance p text at_ budget rest (closure p text (at_ + 1) budget [(n, t.slots)] next)
        else advance p text at_ budget rest next
      | none => advance p text at_ budget rest next
    | _ => advance p text at_ budget rest next

/-- The search from position `at_` on, with the current threads and the match so far;
`budget` bounds each following of empty moves. -/
def searchGo (p : Program) (text : Array Char) (budget : Nat) :
    Nat → Nat → Threads → Option Slots → Option Slots
  | 0, _, _, found => found
  | fuel + 1, at_, curr, found =>
    if at_ > text.size then found
    else if curr.list.isEmpty && found.isSome then found
    else
      let curr := if found.isNone then
          closure p text at_ budget [(p.start, Array.replicate p.slots none)] curr
        else curr
      let (next, m) := advance p text at_ budget curr.list.toList (Threads.empty p.insts.size)
      let found := match m with
        | some _ => m
        | none => found
      searchGo p text budget fuel (at_ + 1) next found

/-- The leftmost-first match starting at or after `start`, as its capture slots. -/
def Program.search (p : Program) (text : Array Char) (start : Nat) : Option Slots :=
  searchGo p text p.budget (text.size + 2 - start) start (Threads.empty p.insts.size) none

/-- The span of a group in the slots of a match, if the group took part. -/
def groupSpan (slots : Slots) (i : Nat) : Option (Nat × Nat) :=
  match slots.getD (2 * i) none, slots.getD (2 * i + 1) none with
  | some a, some b => some (a, b)
  | _, _ => none

/-- The span of a whole match. -/
def matchSpan (slots : Slots) : Nat × Nat :=
  (groupSpan slots 0).getD (0, 0)

/-- The successive matches from `start`, given the end of the previous one. -/
def matchesGo (p : Program) (text : Array Char) : Nat → Nat → Option Nat → List Slots
  | 0, _, _ => []
  | fuel + 1, start, lastEnd =>
    match p.search text start with
    | none => []
    | some m =>
      let (a, b) := matchSpan m
      let chosen := if a == b && lastEnd == some b then p.search text (start + 1) else some m
      match chosen with
      | none => []
      | some m' =>
        let e := (matchSpan m').2
        m' :: matchesGo p text fuel e (some e)

/-- All successive matches in a text. -/
def Program.matches (p : Program) (text : Array Char) : List Slots :=
  matchesGo p text (text.size + 2) 0 none

/-- The text between two positions. -/
def sliceChars (text : Array Char) (a b : Nat) : String :=
  String.ofList (text.extract a b).toList

/-- The pieces of a text between the matches of a program. -/
def Program.split (p : Program) (s : String) : List String :=
  let text := s.toList.toArray
  let (pieces, last) := (p.matches text).foldl (fun (acc : List String × Nat) m =>
    let (a, b) := matchSpan m
    (sliceChars text acc.2 a :: acc.1, b)) ([], 0)
  (sliceChars text last text.size :: pieces).reverse

/-- Whether a byte may stand in an unbraced group reference. -/
def isRefChar (c : Char) : Bool :=
  c.isAlphanum || c == '_'

/-- A group reference: a number when the name is one (with an optional `+`), else a name. -/
def refNumber (name : List Char) : Option Nat :=
  let digits := match name with
    | '+' :: rest => rest
    | cs => cs
  if !digits.isEmpty && digits.all Char.isDigit then
    some (digits.foldl (fun n c => n * 10 + (c.toNat - '0'.toNat)) 0)
  else none

/-- The text a group reference stands for in a match. -/
def Program.groupText (p : Program) (text : Array Char) (m : Slots) (name : List Char) :
    String :=
  let index := match refNumber name with
    | some i => some i
    | none =>
      (p.names.find? fun (e : String × Nat) => e.1 == String.ofList name).map
        fun (e : String × Nat) => e.2
  match index.bind (groupSpan m) with
  | some (a, b) => sliceChars text a b
  | none => ""

/-- Expands a replacement for a match. -/
def Program.expand (p : Program) (text : Array Char) (m : Slots) :
    Nat → List Char → String → String
  | 0, _, out => out
  | _, [], out => out
  | fuel + 1, '$' :: rest, out =>
    match rest with
    | '$' :: rest' => p.expand text m fuel rest' (out.push '$')
    | '{' :: inner =>
      match inner.findIdx? (· == '}') with
      | some k =>
        p.expand text m fuel (inner.drop (k + 1)) (out ++ p.groupText text m (inner.take k))
      | none => p.expand text m fuel rest (out.push '$')
    | _ =>
      let name := rest.takeWhile isRefChar
      if name.isEmpty then p.expand text m fuel rest (out.push '$')
      else p.expand text m fuel (rest.drop name.length) (out ++ p.groupText text m name)
  | fuel + 1, c :: rest, out => p.expand text m fuel rest (out.push c)

/-- Replaces up to `limit` matches (all for 0) of a program in a text. -/
def Program.replace (p : Program) (s : String) (limit : Nat) (replacement : String) :
    String :=
  let text := s.toList.toArray
  let all := p.matches text
  let chosen := if limit > 0 then all.take limit else all
  if chosen.isEmpty then s
  else
    let template := replacement.toList
    let (out, last) := chosen.foldl (fun (acc : String × Nat) m =>
      let (a, b) := matchSpan m
      (acc.1 ++ sliceChars text acc.2 a ++ p.expand text m (template.length + 1) template "", b))
      ("", 0)
    out ++ sliceChars text last text.size

/-- The options a pattern is compiled with. -/
structure Options where
  caseless : Bool
  multiLine : Bool
  dotAll : Bool
  ignoreSpace : Bool
  swapGreed : Bool
  deriving Repr, Inhabited

/-- Compiles a pattern under options; the report of its first error otherwise. -/
def Program.ofPattern (pattern : String) (o : Options) : Except String Program :=
  match parse pattern o.ignoreSpace with
  | .error e => .error (report pattern e)
  | .ok parsed =>
    let flags : Flags :=
      { caseless := o.caseless, multiLine := o.multiLine, dotAll := o.dotAll,
        swapGreed := o.swapGreed, unicode := true, crlf := false }
    match coreOf flags parsed.ast with
    | .error e => .error (report pattern e)
    | .ok (h, _) =>
      let n := h.normal
      if n.tooBig then .error ErrorKind.tooBig.message
      else .ok (Program.ofCore n.toCore parsed.captures parsed.names)

end Regex

end ScriptLib
