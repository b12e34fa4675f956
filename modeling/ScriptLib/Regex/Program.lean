import ScriptLib.Regex.Core

/-!
# Matching programs

A core pattern compiles to a program of instructions: take one character of a set, try
several continuations in order of preference, test the position, record the position in
a capture slot, or accept. Capture group `i` records its start in slot `2 i` and its end
in slot `2 i + 1`; group 0 is the whole match.

Repetitions unfold into copies. `x?` prefers taking `x` when greedy; `x{m,n}` is `m`
copies followed by `n - m` nested optional copies; `x*` is a loop back to a choice before
`x`, except that when `x` can match the empty text it is `(x+)?`, whose loop choice is a
state of its own, so that the preferred path through an empty `x` is kept.
-/

namespace ScriptLib

namespace Regex

/-- An instruction of a matching program. -/
inductive Inst where
  /-- take one character of the set and go on at `next` -/
  | chars (s : CharSet) (next : Nat)
  /-- go on at each target, the first preferred -/
  | split (targets : List Nat)
  /-- go on at `next` if the position passes the test -/
  | look (l : Look) (next : Nat)
  /-- record the position in a slot and go on at `next` -/
  | save (slot : Nat) (next : Nat)
  /-- accept -/
  | done
  deriving Repr, Inhabited

/-- A compiled pattern. -/
structure Program where
  insts : Array Inst
  start : Nat
  /-- the number of capture slots, two for each group with group 0 -/
  slots : Nat
  /-- the named groups -/
  names : List (String × Nat)
  deriving Repr, Inhabited

mutual

/-- The least number of characters a core matches, if it can match at all. -/
def Core.minLen : Core → Option Nat
  | .empty => some 0
  | .chars s => if s.isEmpty then none else some 1
  | .look _ => some 0
  | .cat items => minLenCat items
  | .alt items => minLenAlt items
  | .rep h lo _ _ => h.minLen.map (· * lo)
  | .capture _ h => h.minLen

/-- The least length of items in a row: the sum, if each can match. -/
def minLenCat : List Core → Option Nat
  | [] => some 0
  | h :: rest => do
    let x ← h.minLen
    let y ← minLenCat rest
    pure (x + y)

/-- The least length of branches: the least over those that can match. -/
def minLenAlt : List Core → Option Nat
  | [] => none
  | h :: rest =>
    match h.minLen, minLenAlt rest with
    | some x, some y => some (min x y)
    | some x, none => some x
    | none, some y => some y
    | none, none => none

end

/-- Building a program: the instructions so far. -/
abbrev Build := StateM (Array Inst)

/-- Adds an instruction; its position. -/
def emit (i : Inst) : Build Nat :=
  modifyGet fun a => (a.size, a.push i)

/-- Replaces an instruction. -/
def patch (pc : Nat) (i : Inst) : Build Unit :=
  modify fun a => a.setIfInBounds pc i

/-- The choice between a body and what follows, the body first when greedy. -/
def choice (greedy : Bool) (body next : Nat) : Inst :=
  .split (if greedy then [body, next] else [next, body])

/-- `n` copies of a piece in a row before `next`, the last built first. -/
def copies (one : Nat → Build Nat) : Nat → Nat → Build Nat
  | 0, next => pure next
  | k + 1, next => do
    let entry ← one next
    copies one k entry

/-- `n` nested optional copies of a piece before `next`. -/
def optionals (greedy : Bool) (one : Nat → Build Nat) : Nat → Nat → Build Nat
  | 0, next => pure next
  | k + 1, next => do
    let inner ← optionals greedy one k next
    let body ← one inner
    emit (choice greedy body next)

mutual

/-- Compiles a core to run before `next`; its entry. -/
def compile : Core → Nat → Build Nat
  | .empty, next => pure next
  | .chars s, next => emit (.chars s next)
  | .look l, next => emit (.look l next)
  | .cat items, next => compileCat items next
  | .alt items, next => do
    let entries ← compileAlt items next
    emit (.split entries)
  | .capture i h, next => do
    let close ← emit (.save (2 * i + 1) next)
    let body ← compile h close
    emit (.save (2 * i) body)
  | .rep h lo hi greedy, next =>
    match lo, hi with
    | 0, none =>
      if h.minLen.any (· > 0) then do
        let loop ← emit (.split [])
        let body ← compile h loop
        patch loop (choice greedy body next)
        pure loop
      else do
        let plus ← emit (.split [])
        let body ← compile h plus
        patch plus (choice greedy body next)
        emit (choice greedy body next)
    | 1, none => do
      let loop ← emit (.split [])
      let body ← compile h loop
      patch loop (choice greedy body next)
      pure body
    | k + 2, none => do
      let loop ← emit (.split [])
      let last ← compile h loop
      patch loop (choice greedy last next)
      copies (compile h) (k + 1) last
    | lo, some hi =>
      if lo = hi then copies (compile h) lo next
      else do
        let rest ← optionals greedy (compile h) (hi - lo) next
        copies (compile h) lo rest

/-- Compiles items in a row before `next`, the last first; the entry of the first. -/
def compileCat : List Core → Nat → Build Nat
  | [], next => pure next
  | h :: rest, next => do
    let mid ← compileCat rest next
    compile h mid

/-- Compiles branches that each go on at `next`; their entries, in order. -/
def compileAlt : List Core → Nat → Build (List Nat)
  | [], _ => pure []
  | h :: rest, next => do
    let e ← compile h next
    let es ← compileAlt rest next
    pure (e :: es)

end

/-- The program of a core with its capture groups: group 0 around the whole, then
acceptance. -/
def Program.ofCore (h : Core) (captures : Nat) (names : List (String × Nat)) : Program :=
  let build : Build Nat := do
    let accept ← emit .done
    compile (.capture 0 h) accept
  let (start, insts) := build.run #[]
  { insts := insts, start := start, slots := 2 * (captures + 1), names := names }

end Regex

end ScriptLib
