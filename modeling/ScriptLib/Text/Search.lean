/-!
# Searching texts by character

Script texts are indexed by character. On the characters of a text:

* `slice t a c` is the characters from `min a |t|` up to `max (min a |t|) (min c |t|)`;
* `find t n s` is the least position `i` with `s ≤ i ≤ |t|` at which `n` occurs, none
  when `s` is past the end;
* `rfind t n b` is the greatest such position `i ≤ b`; an empty `n` occurs at
  `min b |t|`, a non-empty one only at positions of characters;
* `split t d` cuts `t` at the non-overlapping occurrences of a non-empty `d`, found left
  to right, keeping the (possibly empty) pieces between them;
* `replace t old new k` writes `new` in place of the first `k` such occurrences of `old`;
  an empty `old` occurs before every character and at the end.
-/

namespace ScriptLib

namespace Text

/-- The characters from position `a` up to position `c`. -/
def slice (t : List Char) (a c : Nat) : List Char :=
  (t.drop a).take (c - a)

/-- The first position at or after the start of `rest` (which is position `i`) where `n`
occurs. -/
def findIn {α : Type} [BEq α] (n : List α) : List α → Nat → Option Nat
  | rest, i =>
    if n.isPrefixOf rest then some i
    else match rest with
      | [] => none
      | _ :: r => findIn n r (i + 1)

/-- The first position at or after `s` where `n` occurs. -/
def find (t n : List Char) (s : Nat) : Option Nat :=
  if s > t.length then none else findIn n (t.drop s) s

/-- The last position at or before `b` where `n` occurs. -/
def rfind (t n : List Char) (b : Nat) : Option Nat :=
  if n.isEmpty then some (min b t.length)
  else
    ((List.range (min (b + 1) t.length)).filter fun i => n.isPrefixOf (t.drop i)).getLast?

/-- The pieces of a text between the occurrences of the delimiter `d0 :: ds`; `cur` is the
reversed piece read so far. -/
def splitGo (d0 : Char) (ds : List Char) (cur : List Char) : List Char → List (List Char)
  | [] => [cur.reverse]
  | c :: r =>
    if (d0 :: ds).isPrefixOf (c :: r) then
      cur.reverse :: splitGo d0 ds [] (r.drop ds.length)
    else splitGo d0 ds (c :: cur) r
termination_by t => t.length
decreasing_by
  all_goals simp only [List.length_cons, List.length_drop]
  all_goals omega

/-- The pieces of `t` between the occurrences of `d`; the whole text when `d` is empty. -/
def split (t d : List Char) : List (List Char) :=
  match d with
  | [] => [t]
  | d0 :: ds => splitGo d0 ds [] t

/-- `t` with `new` in place of the first `k` occurrences of `o0 :: os`. -/
def replaceGo (o0 : Char) (os new : List Char) : Nat → List Char → List Char
  | 0, t => t
  | _ + 1, [] => []
  | k + 1, c :: r =>
    if (o0 :: os).isPrefixOf (c :: r) then new ++ replaceGo o0 os new k (r.drop os.length)
    else c :: replaceGo o0 os new (k + 1) r
termination_by _ t => t.length
decreasing_by
  all_goals simp only [List.length_cons, List.length_drop]
  all_goals omega

/-- `t` with `new` before each of its first `k` characters boundaries, the end counting as
the last boundary. -/
def insertAtBoundaries (new : List Char) : Nat → List Char → List Char
  | 0, t => t
  | _ + 1, [] => new
  | k + 1, c :: r => new ++ c :: insertAtBoundaries new k r

/-- `t` with `new` in place of the first `k` occurrences of `old`. -/
def replace (t old new : List Char) (k : Nat) : List Char :=
  match old with
  | [] => insertAtBoundaries new k t
  | o0 :: os => replaceGo o0 os new k t

/-- `t` with `new` in place of every occurrence of `old`. -/
def replaceAll (t old new : List Char) : List Char :=
  replace t old new (t.length + 1)

end Text

end ScriptLib
