import Std.Data.HashMap
import ScriptLib.Regex.Normal

/-!
# The size of a pattern's automaton

A pattern is refused when the automaton that runs it would take more than `sizeLimit`
bytes. Two automata are built, one reading forward with the capture states and one
reading backward without them, and each is measured as its states are added: a state
takes `stateBytes`, and besides that a state with several transitions takes
`transitionBytes` for each, and a union takes `alternateBytes` for each alternate, which
it gains one by one as pieces are linked to it. Sizes only grow, so an automaton is too
big exactly when its final size is, and building stops as soon as it is.

The automaton of a normal core is built piece by piece, a piece having an entry and an
exit that is linked to what follows. Only the number of states and bytes matters, with
the number of each state, since classes of many code points share states through caches
keyed by the numbers of the states they lead to:

* a literal is a state for each byte, a position test one state, and a class of ASCII
  characters an exit state and a state with a transition for each range;
* a wider class, read forward, is a tree of byte ranges shared from the end, whose states
  are kept in a cache of `10000` slots (a state whose slot was taken over in between is
  built again); read backward, it is a union of byte range chains sharing common tails
  through a cache of `1000` slots;
* an alternation of literals only is a trie of their bytes; any other alternation is its
  branches, then a union and a common exit;
* a repetition unfolds into copies, with unions for the optional and unbounded parts;
* the whole is preceded by a loop over any byte, unless every match is anchored at the
  start (forward) or the end (backward), and followed by the accepting state.
-/

namespace ScriptLib

namespace Regex

/-- The bytes every state takes. -/
def stateBytes : Nat := 32

/-- The bytes of a transition of a state with several. -/
def transitionBytes : Nat := 8

/-- The bytes of an alternate of a union. -/
def alternateBytes : Nat := 4

/-- An automaton under construction, as far as its size goes. -/
structure Tally where
  /-- the states so far, which is also the number the next state gets -/
  states : Nat
  /-- the bytes of transitions and alternates -/
  extra : Nat
  deriving Repr, Inhabited

/-- The bytes an automaton takes. -/
def Tally.bytes (t : Tally) : Nat :=
  t.states * stateBytes + t.extra

/-- Building an automaton, stopped when it exceeds the size limit. -/
abbrev Grow := StateT Tally (Except Unit)

/-- Adds `n` states and `extra` bytes. -/
def addStates (n extra : Nat) : Grow Unit := do
  let t ← get
  let t : Tally := ⟨t.states + n, t.extra + extra⟩
  if t.bytes > sizeLimit then throw ()
  set t

/-- Adds one state holding `extra` bytes beyond its own. -/
def addState (extra : Nat) : Grow Unit :=
  addStates 1 extra

/-- Adds an alternate to a union. -/
def addAlternate : Grow Unit :=
  addStates 0 alternateBytes

/-- Links the exit of a piece to what follows: an exit that is a union gains an
alternate. -/
def link (exitIsUnion : Bool) : Grow Unit :=
  if exitIsUnion then addAlternate else pure ()

/-- A step of the hash of cache keys (FNV-1a over 64 bits). -/
def fnvStep (h : UInt64) (x : Nat) : UInt64 :=
  (h ^^^ x.toUInt64) * 1099511628211

/-- The start of the hash of cache keys. -/
def fnvStart : UInt64 := 14695981039346656037

/-! ## Classes read forward -/

/-- A transition over a range of bytes to a state. -/
structure Transition where
  lo : Nat
  hi : Nat
  next : Nat
  deriving BEq, Repr, Inhabited

/-- A state of the tree of byte ranges not yet added: its transitions, and the range of
the transition still open, whose target is not known yet. -/
structure OpenNode where
  trans : Array Transition
  last : Option ByteRange
  deriving Inhabited

/-- Closes the open transition of a node to a target. -/
def OpenNode.close (n : OpenNode) (next : Nat) : OpenNode :=
  match n.last with
  | some r => ⟨n.trans.push ⟨r.lo, r.hi, next⟩, none⟩
  | none => n

/-- Building the tree of a class read forward. -/
structure ForwardClass where
  /-- the number the next state gets -/
  next : Nat
  /-- the transition bytes of the states added -/
  extra : Nat
  /-- the state all sequences end at -/
  target : Nat
  /-- the path of nodes still open, from the root -/
  path : Array OpenNode
  /-- the states added, by slot: their transitions and number -/
  cache : Std.HashMap Nat (Array Transition × Nat)

/-- The cache slot of a state's transitions. -/
def nodeSlot (trans : Array Transition) : Nat :=
  (trans.foldl (fun h t => fnvStep (fnvStep (fnvStep h t.lo) t.hi) t.next) fnvStart).toNat
    % 10000

/-- Adds a state of transitions in a slot of the cache; its number. -/
def ForwardClass.fresh (b : ForwardClass) (slot : Nat) (trans : Array Transition) :
    Nat × ForwardClass :=
  (b.next,
    { b with
      next := b.next + 1
      extra := b.extra + transitionBytes * trans.size
      cache := b.cache.insert slot (trans, b.next) })

/-- The state of a node's transitions: the cached one, or a new one. -/
def ForwardClass.state (b : ForwardClass) (trans : Array Transition) : Nat × ForwardClass :=
  let slot := nodeSlot trans
  match b.cache[slot]? with
  | some (key, id) => if key == trans then (id, b) else b.fresh slot trans
  | none => b.fresh slot trans

/-- Adds the open nodes deeper than `keep`, the deepest first, each closed to the state
of the one below it; the open transition of the node at `keep` is closed last. -/
def ForwardClass.settle (keep : Nat) : Nat → Nat → ForwardClass → ForwardClass
  | 0, next, b => { b with path := b.path.modify (b.path.size - 1) (·.close next) }
  | fuel + 1, next, b =>
    if keep + 1 < b.path.size then
      let node := (b.path.back?.getD default).close next
      let (id, b) := { b with path := b.path.pop }.state node.trans
      ForwardClass.settle keep fuel id b
    else { b with path := b.path.modify (b.path.size - 1) (·.close next) }

/-- The number of leading nodes of the path whose open transition is the same range as
the sequence at that depth. -/
def sharedDepth (path : List OpenNode) (seq : List ByteRange) : Nat :=
  match path, seq with
  | n :: ns, r :: rs => if n.last == some r then sharedDepth ns rs + 1 else 0
  | _, _ => 0

/-- Adds a sequence, which comes after all sequences added before. -/
def ForwardClass.add (b : ForwardClass) (seq : List ByteRange) : ForwardClass :=
  let keep := sharedDepth b.path.toList seq
  let b := ForwardClass.settle keep b.path.size b.target b
  match seq.drop keep with
  | [] => b
  | r :: rest =>
    let path := b.path.modify (b.path.size - 1) fun n => { n with last := some r }
    { b with path := path ++ (rest.map fun r => ({ trans := #[], last := some r } : OpenNode)).toArray }

/-- The states and bytes of a class of code point ranges read forward, its states
numbered from `base`. -/
def forwardClass (base : Nat) (ranges : List (Nat × Nat)) : Nat × Nat :=
  let start : ForwardClass :=
    { next := base + 1, extra := 0, target := base, path := #[⟨#[], none⟩], cache := {} }
  let b := ranges.foldl (fun b r => (utf8Sequences r.1 r.2).foldl ForwardClass.add b) start
  let b := ForwardClass.settle 0 b.path.size b.target b
  let (_, b) := b.state (b.path[0]?.getD default).trans
  (b.next - base, b.extra)

/-! ## Classes read backward -/

/-- The cache slot of a byte range chained to a state. -/
def chainSlot (next lo hi : Nat) : Nat :=
  (fnvStep (fnvStep (fnvStep fnvStart next) lo) hi).toNat % 1000

/-- Building the chains of a class read backward. -/
structure BackwardClass where
  /-- the number the next state gets -/
  next : Nat
  /-- the alternates of the union -/
  alternates : Nat
  /-- the states added, by slot: the range and the state it leads to, and their number -/
  cache : Std.HashMap Nat ((Nat × Nat × Nat) × Nat)

/-- Adds the chain of a sequence ending at `exit`, reusing a cached link where it can. -/
def BackwardClass.chain (b : BackwardClass) (exit : Nat) : List ByteRange → BackwardClass
  | [] => { b with alternates := b.alternates + 1 }
  | r :: rest =>
    let key := (exit, r.lo, r.hi)
    let slot := chainSlot exit r.lo r.hi
    match b.cache[slot]? with
    | some (k, id) =>
      if k == key then b.chain id rest
      else { b with next := b.next + 1, cache := b.cache.insert slot (key, b.next) }.chain b.next rest
    | none => { b with next := b.next + 1, cache := b.cache.insert slot (key, b.next) }.chain b.next rest

/-- The states and bytes of a class of code point ranges read backward, its states
numbered from `base`: a union, a common exit, and the chains. -/
def backwardClass (base : Nat) (ranges : List (Nat × Nat)) : Nat × Nat :=
  let start : BackwardClass := { next := base + 2, alternates := 0, cache := {} }
  let b := ranges.foldl (fun b r =>
    (utf8Sequences r.1 r.2).foldl (fun b seq => b.chain (base + 1) seq) b) start
  (b.next - base, alternateBytes * b.alternates)

/-! ## Alternations of literals -/

/-- A state of a trie of literals: its transitions, by byte, and its chunks, the runs of
transitions added between two literals ending here; the transitions after the last
chunk are the active ones, kept sorted by byte. -/
structure TrieNode where
  trans : Array (Nat × Nat)
  chunks : Array (Nat × Nat)
  deriving Inhabited

/-- Where the active transitions of a trie state start. -/
def TrieNode.activeStart (n : TrieNode) : Nat :=
  (n.chunks.back?.map (·.2)).getD 0

/-- Marks the end of a literal at a trie state. -/
def TrieNode.addMatch (n : TrieNode) : TrieNode :=
  if n.trans.isEmpty && !n.chunks.isEmpty then n
  else { n with chunks := n.chunks.push (n.activeStart, n.trans.size) }

/-- The state after a byte from a trie state, added if it is not among the active
transitions. -/
def trieStep (nodes : Array TrieNode) (from_ byte : Nat) : Array TrieNode × Nat :=
  let n := nodes[from_]?.getD default
  let active := n.trans.extract n.activeStart n.trans.size
  match active.find? (·.1 == byte) with
  | some t => (nodes, t.2)
  | none =>
    let next := nodes.size
    let before := (active.filter (·.1 < byte)).size
    let i := n.activeStart + before
    let trans := (n.trans.extract 0 i).push (byte, next) ++ n.trans.extract i n.trans.size
    ((nodes.setIfInBounds from_ { n with trans := trans }).push default, next)

/-- Adds a literal to a trie, its bytes in reading order. -/
def trieAdd (nodes : Array TrieNode) (bytes : List Nat) : Array TrieNode :=
  let (nodes, last) := bytes.foldl (fun (acc : Array TrieNode × Nat) b => trieStep acc.1 acc.2 b)
    (nodes, 0)
  nodes.modify last TrieNode.addMatch

/-- The chunks of a trie state in order, the active transitions last. -/
def TrieNode.chunkList (n : TrieNode) : List (List (Nat × Nat)) :=
  (n.chunks.toList.map fun c => (n.trans.extract c.1 c.2).toList) ++
    [(n.trans.extract n.activeStart n.trans.size).toList]

/-- The states and bytes of the automaton of a trie state that is not a leaf: for each
chunk, the states of its children that are not leaves and a state for its transitions
(one range, or several); then a union of the chunks, with the accepting exit between two
chunks. The depth is bounded by the number of trie states. -/
def trieCost (nodes : Array TrieNode) : Nat → Nat → Nat × Nat
  | 0, _ => (0, 0)
  | fuel + 1, s =>
    let chunks := (nodes[s]?.getD default).chunkList
    let chunkCost (chunk : List (Nat × Nat)) : Nat × Nat × Nat :=
      let below := chunk.foldl (fun acc t =>
        if (nodes[t.2]?.getD default).trans.isEmpty then acc
        else
          let c := trieCost nodes fuel t.2
          (acc.1 + c.1, acc.2 + c.2)) (0, 0)
      match chunk with
      | [] => (below.1, below.2, 0)
      | [_] => (below.1 + 1, below.2, 1)
      | _ => (below.1 + 1, below.2 + transitionBytes * chunk.length, 1)
    let (states, extra, alternates) := chunks.foldl (fun acc c =>
      let k := chunkCost c
      (acc.1 + k.1, acc.2.1 + k.2.1, acc.2.2 + k.2.2)) (0, 0, 0)
    let alternates := alternates + (chunks.length - 1)
    (states + 1, extra + alternateBytes * alternates)

/-- The states and bytes of an alternation of literals: an accepting exit, then the trie
of the literals, read backward when the automaton is. -/
def literalTrie (backward : Bool) (literals : List (List Nat)) : Nat × Nat :=
  let nodes := literals.foldl (fun nodes bs => trieAdd nodes (if backward then bs.reverse else bs))
    #[default]
  let c := trieCost nodes (nodes.size + 1) 0
  (c.1 + 1, c.2)

/-! ## Pieces -/

/-- The literals of branches that are all literals. -/
def allLiterals (xs : List Normal) : Option (List (List Nat)) :=
  xs.mapM fun x =>
    match x with
    | .literal bs => some bs
    | _ => none

/-- A class: an exit and one state of transitions for ASCII ones, else the tree or the
chains of its byte sequences. -/
def classPiece (backward : Bool) (ranges : List (Nat × Nat)) : Grow Bool := do
  if ranges.all (·.2 ≤ 0x7F) then
    addState 0
    addState (transitionBytes * ranges.length)
  else
    let t ← get
    let (n, extra) := if backward then backwardClass t.states ranges else forwardClass t.states ranges
    addStates n extra
  pure false

/-- `n` more copies of a piece, each linked from the exit of the one before. -/
def pieceCopiesAfter (one : Grow Bool) : Nat → Bool → Grow Bool
  | 0, prev => pure prev
  | k + 1, prev => do
    let e ← one
    link prev
    pieceCopiesAfter one k e

/-- `n` copies of a piece in a row; with none, one empty state. Whether the exit is a
union. Every piece has a state, so more copies than the size limit has room for states
are refused at once. -/
def pieceCopies (one : Grow Bool) : Nat → Grow Bool
  | 0 => do
    addState 0
    pure false
  | k + 1 => do
    if (k + 1) * stateBytes > sizeLimit then throw ()
    let e ← one
    pieceCopiesAfter one k e

/-- `x?`: a union, the body, an exit. -/
def optionalPiece (one : Grow Bool) : Grow Bool := do
  addState 0
  let e ← one
  addState 0
  addAlternate
  addAlternate
  link e
  pure false

/-- `x*`: when the body cannot match the empty text, a union looping over the body;
else `(x+)?`, a union after the body looping back and a union before it to skip it. -/
def star (nonEmpty : Bool) (one : Grow Bool) : Grow Bool := do
  if nonEmpty then
    addState 0
    let e ← one
    addAlternate
    link e
    pure true
  else
    let e ← one
    addState 0
    link e
    addAlternate
    addState 0
    addState 0
    addAlternate
    addAlternate
    addAlternate
    pure false

/-- `x{n,}` for `n ≥ 1`: `n - 1` copies, then the body with a union looping back to it. -/
def atLeast (one : Grow Bool) (n : Nat) : Grow Bool := do
  if n = 1 then
    let e ← one
    addState 0
    link e
    addAlternate
    pure true
  else
    let p ← pieceCopies one (n - 1)
    let e ← one
    addState 0
    link p
    link e
    addAlternate
    pure true

/-- The optional copies of `x{m,n}` after its `m` copies: each a union that takes the
copy or goes to the common exit. -/
def optionalCopies (one : Grow Bool) : Nat → Bool → Grow Bool
  | 0, prev => pure prev
  | k + 1, prev => do
    addState 0
    let e ← one
    link prev
    addAlternate
    addAlternate
    optionalCopies one k e

/-- `x{m,n}` for `m < n`: `m` copies, an exit, and `n - m` optional copies. -/
def bounded (one : Grow Bool) (lo hi : Nat) : Grow Bool := do
  let p ← pieceCopies one lo
  addState 0
  if (hi - lo) * stateBytes > sizeLimit then throw ()
  let e ← optionalCopies one (hi - lo) p
  link e
  pure false

mutual

/-- Builds the automaton of a normal core; whether its exit is a union. -/
def piece (backward : Bool) : Normal → Grow Bool
  | .empty => do
    addState 0
    pure false
  | .literal bs => do
    addStates bs.length 0
    pure false
  | .cls ranges => classPiece backward ranges
  | .look _ => do
    addState 0
    pure false
  | .capture _ b =>
    if backward then piece backward b
    else do
      addState 0
      let e ← piece backward b
      addState 0
      link e
      pure false
  | .concat xs => if backward then rowBackward backward xs else rowForward backward none xs
  | .alt [] => do
    addState 0
    pure false
  | .alt [x] => piece backward x
  | .alt (x :: y :: rest) =>
    match allLiterals (x :: y :: rest) with
    | some literals => do
      let (n, extra) := literalTrie backward literals
      addStates n extra
      pure false
    | none => do
      let e ← piece backward x
      let e' ← piece backward y
      addState 0
      addState 0
      addAlternate
      link e
      addAlternate
      link e'
      branches backward rest
      pure false
  | .rep b lo hi _ =>
    match lo, hi with
    | 0, some 1 => optionalPiece (piece backward b)
    | 0, none => star (b.minLen.any (· > 0)) (piece backward b)
    | n, none => atLeast (piece backward b) n
    | lo, some hi =>
      if lo = hi then pieceCopies (piece backward b) lo else bounded (piece backward b) lo hi

/-- The items of a concatenation in order, each exit linked to the next item; with no
item, one empty state. -/
def rowForward (backward : Bool) : Option Bool → List Normal → Grow Bool
  | none, [] => do
    addState 0
    pure false
  | some e, [] => pure e
  | prev, x :: xs => do
    let e ← piece backward x
    link (prev.getD false)
    rowForward backward (some e) xs

/-- The items of a concatenation from the last to the first, each exit linked to the
item before it; with no item, one empty state. -/
def rowBackward (backward : Bool) : List Normal → Grow Bool
  | [] => do
    addState 0
    pure false
  | [x] => piece backward x
  | x :: xs => do
    let e ← rowBackward backward xs
    let e' ← piece backward x
    link e
    pure e'

/-- The branches of an alternation after its first two, each added to the union and
linked to the common exit. -/
def branches (backward : Bool) : List Normal → Grow Unit
  | [] => pure ()
  | x :: xs => do
    let e ← piece backward x
    addAlternate
    link e
    branches backward xs

end

/-- Builds the whole automaton of a normal core: the loop over any byte unless every
match is anchored, the capture states of the whole match when reading forward, the core,
and the accepting state. -/
def automaton (backward : Bool) (n : Normal) : Grow Unit := do
  let anchored := if backward then n.endsAnchored else n.startsAnchored
  let loop ← if anchored then do
      addState 0
      pure false
    else do
      addState 0
      addState 0
      addState transitionBytes
      addAlternate
      pure true
  let e ← if backward then piece backward n
    else do
      addState 0
      let e ← piece backward n
      addState 0
      link e
      pure false
  addState 0
  link e
  link loop

/-- Whether the automaton of a normal core, read forward or backward, exceeds the size
limit. -/
def Normal.tooBig (n : Normal) : Bool :=
  let exceeds (backward : Bool) : Bool :=
    match (automaton backward n).run ⟨0, 0⟩ with
    | .ok _ => false
    | .error _ => true
  exceeds false || exceeds true

end Regex

end ScriptLib
