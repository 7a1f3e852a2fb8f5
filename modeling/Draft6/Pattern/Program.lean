import Draft6.Pattern.Compose
import Draft6.Pattern.Program.Bytes
import Std.Data.HashMap

/-!
# The size of programs

An expression is run as a program of states, one that reads the text forward and one that reads it
backward. Neither may be larger than a limit. Only the number of states and what they hold matter
here, so a program under construction is described by its size. Where states could be shared they
are, as far as two tables of fixed sizes remember them.
-/

namespace Draft6

namespace Pattern

/-- The size of a program under construction. -/
structure Program where
  /-- Whether the program reads backward. -/
  reversed : Bool
  /-- The number of states, which is also the number of the next one. -/
  states : Nat
  /-- The bytes that the edges of states take. -/
  edgeBytes : Nat

namespace Program

/-- The bytes of a state without its edges. -/
def stateBytes : Nat := 32

/-- The bytes of an edge that a range of bytes guards. -/
def guardedBytes : Nat := 8

/-- The bytes of an edge of a state that branches. -/
def branchBytes : Nat := 4

/-- The bytes that a program may take. -/
def maxBytes : Nat := 10 * 1024 * 1024

/-- The program, unless it is too large. -/
def checked (p : Program) : Option Program :=
  if stateBytes * p.states + p.edgeBytes ≤ maxBytes then some p else none

/-- Add some states without edges of their own. -/
def addStates (p : Program) (count : Nat) : Option Program :=
  checked { p with states := p.states + count }

/-- Add a state with some guarded edges. -/
def addGuarded (p : Program) (edges : Nat) : Option Program :=
  checked { p with states := p.states + 1, edgeBytes := p.edgeBytes + guardedBytes * edges }

/-- Add a state that branches along some edges. -/
def addBranching (p : Program) (edges : Nat) : Option Program :=
  checked { p with states := p.states + 1, edgeBytes := p.edgeBytes + branchBytes * edges }

/-- Add edges to states that branch. -/
def addBranches (p : Program) (edges : Nat) : Option Program :=
  checked { p with edgeBytes := p.edgeBytes + branchBytes * edges }

/-- A part of a program, with its last state. -/
structure Part where
  last : Nat
  /-- Whether the last state branches, so that going on from it takes an edge more. -/
  branches : Bool

/-- Go on from the last state of a part. -/
def goOn (p : Program) (part : Part) : Option Program :=
  if part.branches then p.addBranches 1 else some p

/-- A step of the construction. -/
abbrev Step := Program → Option (Part × Program)

/-- Add a single state. -/
def single : Step := fun p => do pure (⟨p.states, false⟩, ← p.addStates 1)

/-- Add a number of states in a row. -/
def row (count : Nat) : Step := fun p =>
  if count = 0 then single p
  else do pure (⟨p.states + count - 1, false⟩, ← p.addStates count)

/-- Go on from a part with a step, some times. -/
def goOnTimes (step : Step) : (times : Nat) → Part → Step
  | 0, part, p => some (part, p)
  | times + 1, part, p => do
    let (next, p) ← step p
    goOnTimes step times next (← p.goOn part)

/-- A step exactly some times. -/
def times (step : Step) : (times : Nat) → Step
  | 0, p => single p
  | times + 1, p => do
    let (part, p) ← step p
    goOnTimes step times part p

/-- A step at least some times. A state that branches leads back to it. `isNonempty` says that each
time takes characters. -/
def atLeast (step : Step) (isNonempty : Bool) : (min : Nat) → Step
  | 0, p =>
    if isNonempty then do
      let last := p.states
      let (part, p) ← step (← p.addBranching 1)
      pure (⟨last, true⟩, ← p.goOn part)
    else do
      let (part, p) ← step p
      let p ← (← (← p.addStates 1).goOn part).addBranches 1
      let p ← p.addStates 1
      pure (⟨p.states, false⟩, ← (← p.addStates 1).addBranches 3)
  | 1, p => do
    let (part, p) ← step p
    pure (⟨p.states, true⟩, ← (← (← p.addStates 1).goOn part).addBranches 1)
  | min + 2, p => do
    let (before, p) ← times step (min + 1) p
    let (part, p) ← step p
    let last := p.states
    let p ← (← p.addStates 1).goOn before
    pure (⟨last, true⟩, ← (← p.goOn part).addBranches 1)

/-- A step at most once. -/
def optional (step : Step) : Step := fun p => do
  let (part, p) ← step (← p.addStates 1)
  let last := p.states
  let p ← (← p.addStates 1).addBranches 2
  pure (⟨last, false⟩, ← p.goOn part)

/-- Up to some more times a step, each of which may lead to the state at the end. -/
def optionalTimes (step : Step) : (times : Nat) → Part → Step
  | 0, part, p => some (part, p)
  | times + 1, part, p => do
    let (next, p) ← step (← p.addStates 1)
    optionalTimes step times next (← (← p.goOn part).addBranches 2)

/-- A step at least and at most some times. -/
def between (step : Step) (min max : Nat) : Step := fun p => do
  let (part, p) ← times step min p
  let last := p.states
  let (part, p) ← optionalTimes step (max - min) part (← p.addStates 1)
  pure (⟨last, false⟩, ← p.goOn part)

/-- The number that a list of numbers is filed under. -/
def fileNumber (numbers : List Nat) : UInt64 :=
  numbers.foldl (fun hash n => (hash ^^^ n.toUInt64) * 1099511628211) 14695981039346656037

/-- States that are remembered by what they hold. A later one takes the place of an earlier one with
the same file number, up to the size of the table. -/
abbrev Memory := Std.HashMap UInt64 (List Nat × Nat)

/-- The state with the given guarded edges, each of which is written as three numbers. -/
def shared (memory : Memory) (slots : UInt64) (held : List Nat) (p : Program)
    (add : Program → Option Program) : Option (Nat × Memory × Program) :=
  let slot := fileNumber held % slots
  match memory[slot]? with
  | some (held', state) =>
    if held = held' then some (state, memory, p)
    else do pure (p.states, memory.insert slot (held, p.states), ← add p)
  | none => do pure (p.states, memory.insert slot (held, p.states), ← add p)

/-- A state that still gets edges: those it has, each written as three numbers, and the guard of the
next one. -/
structure Unfinished where
  edges : List Nat
  guard : Option ByteRange

/-- The edges of a state when its last one leads to a given state. -/
def Unfinished.edgesTo (u : Unfinished) (target : Nat) : List Nat :=
  match u.guard with
  | some (first, last) => u.edges ++ [first, last, target]
  | none => u.edges

/-- Finish states from the deepest one on. The deepest one leads to the state at the end. -/
def finish (last : Nat) (memory : Memory) (p : Program) :
    List Unfinished → Option (Nat × Memory × Program)
  | [] => some (last, memory, p)
  | state :: deeper => do
    let (target, memory, p) ← finish last memory p deeper
    let edges := state.edgesTo target
    shared memory 10000 edges p fun p => p.addGuarded (edges.length / 3)

/-- Add a sequence of byte ranges to the path of unfinished states, of which it keeps those at the
start that lead along the same ranges. -/
def insertSequence (last : Nat) (memory : Memory) (p : Program) :
    List Unfinished → List ByteRange → Option (List Unfinished × Memory × Program)
  | state :: deeper, range :: ranges =>
    if state.guard = some range then do
      let (deeper, memory, p) ← insertSequence last memory p deeper ranges
      pure (state :: deeper, memory, p)
    else do
      let (target, memory, p) ← finish last memory p deeper
      pure (⟨state.edgesTo target, some range⟩ :: ranges.map fun range => ⟨[], some range⟩,
        memory, p)
  | path, _ => some (path, memory, p)

/-- Add sequences of byte ranges in ascending order, then finish all states. -/
def insertSequences (last : Nat) (memory : Memory) (p : Program) (path : List Unfinished) :
    List (List ByteRange) → Option Program
  | [] => (finish last memory p path).map fun (_, _, p) => p
  | ranges :: rest => do
    let (path, memory, p) ← insertSequence last memory p path ranges
    insertSequences last memory p path rest

/-- Add the states of a sequence of byte ranges that is read backward, from the state at the end
on. -/
def insertBackward (memory : Memory) (p : Program) (target : Nat) :
    List ByteRange → Option (Memory × Program)
  | [] => some (memory, p)
  | (first, last) :: ranges => do
    let (state, memory, p) ← shared memory 1000 [target, first, last] p fun p => p.addStates 1
    insertBackward memory p state ranges

/-- Add sequences of byte ranges that are read backward, each along an edge of its own. -/
def insertAllBackward (last : Nat) (memory : Memory) (p : Program) :
    List (List ByteRange) → Option Program
  | [] => some p
  | ranges :: rest => do
    let (memory, p) ← insertBackward memory p last ranges
    insertAllBackward last memory (← p.addBranches 1) rest

/-- The states of a set. -/
def ofSet (set : Unicode.Ranges) : Step := fun p =>
  if set.bounds.all fun bounds => bounds.2 < 0x80 then do
    pure (⟨p.states, false⟩, ← (← p.addStates 1).addGuarded set.bounds.length)
  else if p.reversed then do
    let last := p.states + 1
    pure (⟨last, false⟩, ← insertAllBackward last ∅ (← p.addStates 2) (sequences set))
  else do
    let last := p.states
    let start : Unfinished := ⟨[], none⟩
    pure (⟨last, false⟩, ← insertSequences last ∅ (← p.addStates 1) [start] (sequences set))

/-- Literals in a tree by their bytes. A node holds blocks of branches, each to a tree by a byte,
and a literal ends between any two blocks. -/
inductive LiteralTree where
  | node (blocks : List (List (Nat × LiteralTree)))

namespace LiteralTree

/-- The tree without a literal. -/
def empty : LiteralTree := .node [[]]

/-- Change the tree that a byte leads to. -/
def changeBranch (byte : Nat) (change : LiteralTree → LiteralTree) :
    List (Nat × LiteralTree) → List (Nat × LiteralTree)
  | [] => [(byte, change empty)]
  | (byte', tree) :: rest =>
    if byte = byte' then (byte', change tree) :: rest
    else if byte < byte' then (byte, change empty) :: (byte', tree) :: rest
    else (byte', tree) :: changeBranch byte change rest

/-- Add a literal. Only the last block of a node grows. -/
def insert : List Nat → LiteralTree → LiteralTree
  | [], .node blocks =>
    if blocks.all List.isEmpty && 1 < blocks.length then .node blocks else .node (blocks ++ [[]])
  | byte :: bytes, .node blocks =>
    .node (blocks.dropLast ++ [changeBranch byte (insert bytes) (blocks.getLast?.getD [])])

/-- Whether no branch leaves the tree. -/
def isLeaf : LiteralTree → Bool
  | .node blocks => blocks.all List.isEmpty

mutual

/-- Add the states of a tree: one that branches to its blocks and, between them, to the end. -/
def addTo (p : Program) : LiteralTree → Option Program
  | .node blocks => do
    let p ← addBlocks p blocks
    p.addBranching ((blocks.filter fun block => !block.isEmpty).length + (blocks.length - 1))

/-- Add the states of blocks, one for each that is not empty. -/
def addBlocks (p : Program) : List (List (Nat × LiteralTree)) → Option Program
  | [] => some p
  | [] :: blocks => addBlocks p blocks
  | [branch] :: blocks => do
    let p ← addBranchTrees p [branch]
    addBlocks (← p.addStates 1) blocks
  | block :: blocks => do
    let p ← addBranchTrees p block
    addBlocks (← p.addGuarded block.length) blocks

/-- Add the states of the trees that branches lead to. Leaves need none. -/
def addBranchTrees (p : Program) : List (Nat × LiteralTree) → Option Program
  | [] => some p
  | (_, tree) :: branches =>
    if tree.isLeaf then addBranchTrees p branches
    else do addBranchTrees (← addTo p tree) branches

end

end LiteralTree

/-- The states of literals of which one has to match. -/
def ofLiterals (literals : List (List Char)) : Step := fun p => do
  let bytes (cs : List Char) : List Nat :=
    let bytes := (cs.flatMap String.utf8EncodeChar).map UInt8.toNat
    if p.reversed then bytes.reverse else bytes
  let tree := literals.foldl (fun tree cs => tree.insert (bytes cs)) LiteralTree.empty
  pure (⟨p.states, false⟩, ← LiteralTree.addTo (← p.addStates 1) tree)

/-- The text of an expression that is a literal. -/
def literal? : Regex → Option (List Char)
  | .literal cs => some cs
  | _ => none

mutual

/-- The states of an expression. -/
def ofRegex : Regex → Step
  | .empty, p | .look _, p => single p
  | .literal cs, p => row (Regex.textBytes cs) p
  | .chars set, p => ofSet set p
  | .repeated body min max _, p =>
    match max with
    | none => atLeast (ofRegex body) (0 < (Regex.minBytes? body).getD 0) min p
    | some max =>
      if min = 0 ∧ max = 1 then optional (ofRegex body) p
      else if min = max then times (ofRegex body) min p
      else between (ofRegex body) min max p
  | .group _ body, p =>
    if p.reversed then ofRegex body p
    else do
      let (part, p) ← ofRegex body (← p.addStates 1)
      pure (⟨p.states, false⟩, ← (← p.addStates 1).goOn part)
  | .seq parts, p =>
    if p.reversed then do
      let (part?, p) ← ofSeqBackward parts p
      pure (part?.getD ⟨p.states, false⟩, p)
    else ofSeq none parts p
  | .alt branches, p =>
    match branches.mapM literal? with
    | some literals => ofLiterals literals p
    | none => ofBranches branches p

/-- The states of expressions that follow each other, and a part before them. -/
def ofSeq (before? : Option Part) : List Regex → Step
  | [], p =>
    match before? with
    | some before => some (before, p)
    | none => single p
  | part :: parts, p => do
    let (next, p) ← ofRegex part p
    match before? with
    | some before => ofSeq (some next) parts (← p.goOn before)
    | none => ofSeq (some next) parts p

/-- The states of expressions that follow each other and are read backward, the last one first. -/
def ofSeqBackward : List Regex → Program → Option (Option Part × Program)
  | [], p => some (none, p)
  | part :: parts, p => do
    let (before?, p) ← ofSeqBackward parts p
    let (next, p) ← ofRegex part p
    match before? with
    | some before => pure (some next, ← p.goOn before)
    | none => pure (some next, p)

/-- The states of expressions of which one has to match. The state that branches and the one at the
end come after the first two. -/
def ofBranches : List Regex → Step
  | [], p => single p
  | [branch], p => ofRegex branch p
  | first :: second :: branches, p => do
    let (part, p) ← ofRegex first p
    let (part', p) ← ofRegex second p
    let last := p.states + 1
    let p ← (← (← (← p.addStates 2).addBranches 2).goOn part).goOn part'
    pure (⟨last, false⟩, ← ofOtherBranches branches p)

/-- The states of more expressions of which one has to match. -/
def ofOtherBranches : List Regex → Program → Option Program
  | [], p => some p
  | branch :: branches, p => do
    let (part, p) ← ofRegex branch p
    ofOtherBranches branches (← (← p.addBranches 1).goOn part)

end

/-- The program of an expression. Unless the expression is anchored the program skips characters
first. -/
def build? (reversed : Bool) (r : Regex) : Option Program := do
  let isAnchored := if reversed then r.isAnchoredAtEnd else r.isAnchoredAtStart
  let start : Program := ⟨reversed, 0, 0⟩
  let (skip, p) ← if isAnchored then single start
    else atLeast (ofSet (.between 0 0x7F)) true 0 start
  let (part, p) ← ofRegex (.group 0 r) p
  (← (← p.addStates 1).goOn part).goOn skip

/-- Whether no program of an expression is too large. -/
def fits (r : Regex) : Bool := (build? false r).isSome && (build? true r).isSome

end Program

end Pattern

end Draft6
