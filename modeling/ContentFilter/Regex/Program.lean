import ContentFilter.Regex.Normal
import ContentFilter.Regex.Trie
import ContentFilter.Regex.Utf8
import Std.Data.HashMap

/-!
# Programs of expressions

To match an expression it is turned into two programs, one that reads a text forward and one that
reads it backward. A program consists of states: some read a byte and go on, some fork into several
branches, and some only go on. Every turn of a counted repetition is spelled out in states of its
own, so an expression may need a very large program, and one that takes more than ten mebibytes is
refused. Nothing is run here: a program is known by how many states it has and by how many bytes
they take.
-/

namespace ContentFilter.Regex

open Text

/-- The way in which a program reads a text. -/
inductive Direction where
  /-- From its beginning. -/
  | forward
  /-- From its end. -/
  | backward
deriving Repr, DecidableEq

/-- How much of a program has been made. -/
structure Program where
  /-- The number of states; they are numbered in the order in which they are made. -/
  states : Nat
  /-- How many bytes the lists of steps and branches take. -/
  listBytes : Nat
  /-- What was made last ends in a fork, so that going on from there needs one more branch. -/
  endsInFork : Bool
deriving Repr, DecidableEq

namespace Program

/-- The program without a state. -/
def empty : Program := ⟨0, 0, false⟩

/-- How many bytes a state takes, lists left aside. -/
def stateBytes : Nat := 32

/-- How many bytes a step takes, which reads a byte of a span. -/
def stepBytes : Nat := 8

/-- How many bytes a branch of a fork takes. -/
def branchBytes : Nat := 4

/-- How many bytes a program may take. -/
def maxBytes : Nat := 10485760

/-- How many bytes the program takes. -/
def bytes (p : Program) : Nat :=
  stateBytes * p.states + p.listBytes

/-- The program, unless it is too large. -/
def checked? (p : Program) : Option Program :=
  if p.bytes ≤ maxBytes then some p else none

/-- Adds branches to forks. -/
def addBranches (count : Nat) (p : Program) : Program :=
  { p with listBytes := p.listBytes + branchBytes * count }

/-- Goes on from what was made last. -/
def settled (p : Program) : Program :=
  if p.endsInFork then { p.addBranches 1 with endsInFork := false } else p

/-- What was made last ends in a fork. -/
def ending (p : Program) : Program :=
  { p with endsInFork := true }

/-- Adds a state with a list of so many bytes, to which what was made last goes on. -/
def addStateWith (listBytes : Nat) (p : Program) : Program :=
  let q := p.settled
  { q with states := q.states + 1, listBytes := q.listBytes + listBytes }

/-- Adds a state. -/
def addState (p : Program) : Program :=
  p.addStateWith 0

/-- Adds a state with so many steps. A single step needs no list. -/
def addSteps (count : Nat) (p : Program) : Program :=
  p.addStateWith (if count = 1 then 0 else stepBytes * count)

/-- Adds states one after the other. -/
def addStates : Nat → Program → Program
  | 0, p => p
  | count + 1, p => p.addState.addStates count

end Program

/-! ## Sets -/

/-- States that were made, each remembered by the numbers that describe it. There is a fixed number
of places, and the numbers determine the place; what comes later to a place displaces what was
there. -/
structure StateMemo where
  /-- The number of places. -/
  size : Nat
  /-- What is remembered at each place: the numbers and the state. -/
  entries : Std.HashMap Nat (List Nat × Nat)

namespace StateMemo

/-- A memo of `size` places that remembers nothing. -/
def ofSize (size : Nat) : StateMemo := ⟨size, ∅⟩

/-- The place of a list of numbers: each number is mixed into a word of 64 bits, which is then
multiplied by a prime. -/
def place (m : StateMemo) (key : List Nat) : Nat :=
  let word : UInt64 :=
    key.foldl (fun h n => (h ^^^ UInt64.ofNat n) * 1099511628211) 14695981039346656037
  word.toNat % m.size

/-- The state that is remembered for the numbers. -/
def find? (m : StateMemo) (key : List Nat) : Option Nat :=
  match m.entries[m.place key]? with
  | some (k, state) => if k = key then some state else none
  | none => none

/-- Remembers a state. -/
def insert (m : StateMemo) (key : List Nat) (state : Nat) : StateMemo :=
  { m with entries := m.entries.insert (m.place key) (key, state) }

end StateMemo

/-- A program and the states that are remembered while a set is added to it. -/
structure SetProgram where
  /-- The program. -/
  program : Program
  /-- What is remembered. -/
  memo : StateMemo

namespace SetProgram

/-- The state that the numbers describe, which has a list of so many bytes. It is added unless it is
remembered. -/
def stateFor (key : List Nat) (listBytes : Nat) (b : SetProgram) : Nat × SetProgram :=
  match b.memo.find? key with
  | some state => (state, b)
  | none =>
    let state := b.program.states
    (state, ⟨b.program.addStateWith listBytes, b.memo.insert key state⟩)

/-- Adds the states that read the given sequences of bytes and then go on to `target`. Sequences
that begin with the same span share a step, and states with the same steps are one, if they are
remembered. `depth` bounds the length of the sequences. -/
def addForward (target : Nat) : (depth : Nat) → List (List Span) → SetProgram → Nat × SetProgram
  | 0, _, b => (target, b)
  | depth + 1, sequences, b =>
    let addGroup (acc : List Nat × SetProgram) (group : List (List Span)) :
        List Nat × SetProgram :=
      match group with
      | [[s]] => (acc.1 ++ [s.first, s.last, target], acc.2)
      | (s :: _) :: _ =>
        let next := addForward target depth (group.map List.tail) acc.2
        (acc.1 ++ [s.first, s.last, next.1], next.2)
      | _ => acc
    let steps :=
      (sequences.splitBy fun s t => s.head? == t.head?).foldl addGroup ([], b)
    steps.2.stateFor steps.1 (Program.stepBytes * (steps.1.length / 3))

/-- Adds the states that read the bytes of a sequence from the last to the first and then go on to
`target`. States with the same step are one, if they are remembered. -/
def addBackward (target : Nat) (sequence : List Span) (b : SetProgram) : SetProgram :=
  let added := sequence.foldl
    (fun acc s => acc.2.stateFor [acc.1, s.first, s.last] 0) (target, b)
  { added.2 with program := added.2.program.addBranches 1 }

end SetProgram

/-- Adds what reads one character of a set. -/
def Program.addSet (d : Direction) (s : CharSet) (p : Program) : Program :=
  if s.isAscii then p.addState.addStateWith (stepBytes * s.spans.length)
  else
    match d with
    | .forward =>
      let target := p.states
      (SetProgram.addForward target 4 (byteSpans s.spans)
        ⟨p.addState, .ofSize 10000⟩).2.program
    | .backward =>
      let target := p.states + 1
      let start : SetProgram := ⟨p.addState.addState, .ofSize 1000⟩
      ((byteSpans s.spans).foldl (fun b sequence => b.addBackward target sequence) start).program

/-! ## Literals -/

mutual

/-- Adds the states of a node of a trie, after those of the nodes below it. -/
def Trie.addTo : Trie → Program → Program
  | .node rounds branches, p =>
    let counts := (List.range (rounds + 1)).map branches.countIn
    let used := counts.filter (· ≠ 0)
    let q := used.foldl (fun q count => q.addSteps count) (branches.addTo p)
    q.addStateWith (Program.branchBytes * (used.length + rounds))

/-- Adds the states of the nodes that branches lead to; the end of a literal needs none. -/
def TrieBranches.addTo : TrieBranches → Program → Program
  | .nil, p => p
  | .cons _ _ child rest, p => rest.addTo (if child.isLeaf then p else child.addTo p)

end

/-- Adds what reads any of several literals. -/
def Program.addLiterals (d : Direction) (literals : List (List Char)) (p : Program) : Program :=
  let bytesOf (text : List Char) : List Nat :=
    let bytes := text.flatMap fun c => utf8Bytes c.toNat
    match d with
    | .forward => bytes
    | .backward => bytes.reverse
  (Trie.ofLiterals (literals.map bytesOf)).addTo p.addState

/-! ## Repetitions -/

namespace Program

/-- Adds something so many times, one after the other. -/
def addCopies (add : Program → Option Program) : Nat → Program → Option Program
  | 0, p => some p
  | count + 1, p =>
    match add p with
    | some q => addCopies add count q
    | none => none

/-- Adds something exactly so many times. -/
def addExactly (add : Program → Option Program) (count : Nat) (p : Program) : Option Program :=
  if count = 0 then p.addState.checked? else addCopies add count p

/-- Adds something that may be left out, as one turn of many: a fork goes to it or to the end of all
turns. -/
def addOptional (add : Program → Option Program) (p : Program) : Option Program :=
  (add p.addState).map (addBranches 2)

/-- Adds a repetition of something. After an unbounded one a fork goes back; if a turn may be empty,
the fork stands apart from the one that decides whether there is any turn. -/
def addTurns (add : Program → Option Program) (mayBeEmpty : Bool) (least : Nat)
    (most : Option Nat) (p : Program) : Option Program :=
  match least, most with
  | 0, some 1 => (add p.addState).map fun q => q.addState.addBranches 2
  | 0, none =>
    if mayBeEmpty then (add p).map fun q => q.addState.addState.addState.addBranches 4
    else (add p.addState).map fun q => (q.settled.addBranches 1).ending
  | least, none => (addCopies add least p).map fun q => (q.addState.addBranches 1).ending
  | least, some most =>
    if least = most then addExactly add least p
    else
      (addExactly add least p).bind fun q =>
        (addCopies (addOptional add) (most - least) q.addState).map settled

end Program

/-! ## Expressions -/

namespace Tree

/-- The literals that the expressions are, if each of them is one. -/
def literals? (branches : List Tree) : Option (List (List Char)) :=
  branches.mapM fun
    | literal text => some text
    | _ => none

mutual

/-- Adds the states of an expression to a program. -/
def addTo (d : Direction) : Tree → Program → Option Program
  | empty, p | look _, p => p.addState.checked?
  | literal text, p => (p.addStates (text.flatMap fun c => utf8Bytes c.toNat).length).checked?
  | set _ s, p => (p.addSet d s).checked?
  | capture body, p =>
    match d with
    | .forward => (body.addTo d p.addState).map Program.addState
    | .backward => body.addTo d p
  | times body least most _, p =>
    Program.addTurns (body.addTo d) (!body.leastLength?.any (0 < ·)) least most p
  | seq parts, p => addParts d parts p
  | alt branches, p =>
    match literals? branches with
    | some literals => (p.addLiterals d literals).checked?
    | none => addBranchesTo d 0 branches p

/-- Adds the states of expressions one after the other. -/
def addParts (d : Direction) : List Tree → Program → Option Program
  | [], p => some p
  | t :: ts, p => (t.addTo d p).bind (addParts d ts)

/-- Adds the states of alternatives, `made` of which are there. The fork and the state in which they
meet again are made after the second one. -/
def addBranchesTo (d : Direction) (made : Nat) : List Tree → Program → Option Program
  | [], p => some p.settled
  | t :: ts, p =>
    (t.addTo d p).bind fun q =>
      addBranchesTo d (made + 1) ts
        ((if made = 1 then q.addState.addState else q).addBranches 1)

end

/-- The program of an expression that is read in the given direction, unless it is too large. If a
match need not begin where reading begins, bytes may be skipped first. -/
def program? (d : Direction) (t : Tree) : Option Program :=
  let edge : Look :=
    match d with
    | .forward => .textStart
    | .backward => .textEnd
  let start : Program :=
    if t.beginsWith edge then Program.empty.addState
    else
      ((Program.empty.addState.addState.addStateWith Program.stepBytes).addBranches 1).ending
  ((capture t).addTo d start).bind fun p => p.addState.checked?

/-- Whether neither of the two programs of an expression is too large. -/
def fits (t : Tree) : Bool :=
  let n := t.normal
  (n.program? .forward).isSome && (n.mirror.program? .backward).isSome

end Tree

end ContentFilter.Regex
