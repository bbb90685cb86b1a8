import ContentFilter.Regex.Tree

/-!
# Normal forms of expressions

The form in which a matcher takes an expression: sequences and alternatives do not lie directly in
their like, literals that follow each other are one, alternatives of single characters or of sets
are one set, the parts that all alternatives begin with stand in front of them, and what matches the
empty text only is repeated once at most.
-/

namespace ContentFilter.Regex

namespace Tree

/-- Matches nothing. -/
def never : Tree := set true .nothing

/-- A set, or a literal if it has one character only. -/
def ofSet (ofBytes : Bool) (s : CharSet) : Tree :=
  if s.spans = [] then never
  else
    match s.only? with
    | some c => literal [c]
    | none => set ofBytes s

/-! ## Sequences -/

/-- What stands in a sequence for the expression. -/
def asParts : Tree → List Tree
  | empty => []
  | seq parts => parts
  | t => [t]

/-- Puts a part in front of others; literals side by side become one. -/
def consPart : Tree → List Tree → List Tree
  | literal a, literal b :: parts => literal (a ++ b) :: parts
  | t, parts => t :: parts

/-- One expression after the other. -/
def join (parts : List Tree) : Tree :=
  match (parts.flatMap asParts).foldr consPart [] with
  | [] => empty
  | [t] => t
  | parts => seq parts

/-! ## Alternatives -/

/-- What stands among alternatives for the expression. -/
def asBranches : Tree → List Tree
  | alt branches => branches
  | t => [t]

/-- The single character that the expression is. -/
def char? : Tree → Option Char
  | literal [c] => some c
  | _ => none

/-- The set that the expression is. -/
def set? : Tree → Option CharSet
  | set _ s => some s
  | _ => none

/-- What two lists of parts begin with in common. -/
def sharedFront : List Tree → List Tree → List Tree
  | a :: as, b :: bs => if same a b then a :: sharedFront as bs else []
  | _, _ => []

/-- What all branches begin with; only sequences have parts to share. -/
def commonFront : List Tree → List Tree
  | seq parts :: branches =>
    branches.foldl (fun front t =>
      match t with
      | seq others => sharedFront front others
      | _ => []) parts
  | _ => []

/-- The alternatives of a list. Each time that a common front is taken off, less is left, and `fuel`
bounds how often. -/
def chooseWithin : (fuel : Nat) → List Tree → Tree
  | fuel, given =>
    match given.flatMap asBranches with
    | [] => never
    | [t] => t
    | branches =>
      match branches.mapM char?, branches.mapM set? with
      | some chars, _ => ofSet false (.ofRanges (chars.map fun c => (c, c)))
      | none, some sets => ofSet false (.unionAll sets)
      | none, none =>
        match fuel, commonFront branches with
        | _, [] | 0, _ => alt branches
        | fuel + 1, front =>
          let rests := branches.map fun t => join (t.asParts.drop front.length)
          join (front ++ [chooseWithin fuel rests])

/-- The alternatives of a list. -/
def choose (branches : List Tree) : Tree :=
  chooseWithin (nodeCounts branches) branches

/-! ## Repetitions -/

/-- A repetition; one of the empty text needs no second turn. -/
def repeated (body : Tree) (least : Nat) (most : Option Nat) (prefersMore : Bool) : Tree :=
  let (least, most) :=
    if body.isWidthless then (min least 1, some (min (most.getD 1) 1)) else (least, most)
  if least = 0 ∧ most = some 0 then empty
  else if least = 1 ∧ most = some 1 then body
  else times body least most prefersMore

mutual

/-- The normal form of an expression. -/
def normal : Tree → Tree
  | set ofBytes s => ofSet ofBytes s
  | times body least most prefersMore => repeated body.normal least most prefersMore
  | capture body => capture body.normal
  | seq parts => join (normals parts)
  | alt branches => choose (normals branches)
  | t => t

/-- The normal forms of expressions. -/
def normals : List Tree → List Tree
  | [] => []
  | t :: ts => t.normal :: normals ts

end

end Tree

end ContentFilter.Regex
