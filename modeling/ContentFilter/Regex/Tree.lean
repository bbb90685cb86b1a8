import ContentFilter.Regex.Basic

/-!
# Expressions by their parts

A pattern whose flags, classes and assertions have got their meaning. Sequences and alternatives are
still lists of parts, as they were written, and what captures is still told apart from what only
groups; `Tree.toRegex` forgets that, for it does not matter for what an expression matches.
-/

namespace ContentFilter.Regex

/-- An expression by its parts. -/
inductive Tree where
  /-- Matches the empty text. -/
  | empty
  /-- Matches the characters one after the other. -/
  | literal (text : List Char)
  /-- Matches one character of a set, which is one of bytes if the pattern is. -/
  | set (ofBytes : Bool) (s : CharSet)
  /-- Matches the empty text at a place that meets the condition. -/
  | look (l : Look)
  /-- Matches so many times, and prefers more turns or fewer. -/
  | times (body : Tree) (least : Nat) (most : Option Nat) (prefersMore : Bool)
  /-- Matches what the body matches, which can be told apart later. -/
  | capture (body : Tree)
  /-- Matches one part after the other. -/
  | seq (parts : List Tree)
  /-- Matches any of the branches. -/
  | alt (branches : List Tree)
deriving Repr

namespace Tree

mutual

/-- What an expression matches. -/
def toRegex : Tree → Regex
  | empty => .empty
  | literal text => .seqAll (text.map fun c => .one (.only c))
  | set _ s => .one s
  | look l => .look l
  | times body least most _ => .times body.toRegex least most
  | capture body => body.toRegex
  | seq parts => .seqAll (toRegexes parts)
  | alt branches => .altAll (toRegexes branches)

/-- What each of the expressions matches. -/
def toRegexes : List Tree → List Regex
  | [] => []
  | t :: ts => t.toRegex :: toRegexes ts

end

/-! ## Shape -/

mutual

/-- Whether every match is empty. -/
def isWidthless : Tree → Bool
  | empty | look _ => true
  | literal _ | set _ _ => false
  | times body _ _ _ | capture body => body.isWidthless
  | seq parts => allWidthless parts
  | alt branches => allWidthless branches

/-- Whether every match of every expression is empty. -/
def allWidthless : List Tree → Bool
  | [] => true
  | t :: ts => t.isWidthless && allWidthless ts

end

mutual

/-- How many bytes a match has at least, if there can be a match in every branch. -/
def leastLength? : Tree → Option Nat
  | empty | look _ => some 0
  | literal text => some text.length
  | set _ s => if s.spans = [] then none else some 1
  | times body least _ _ => body.leastLength?.map (· * least)
  | capture body => body.leastLength?
  | seq parts => sumLength? parts
  | alt branches => minLength? branches

/-- The sum of the least lengths. -/
def sumLength? : List Tree → Option Nat
  | [] => some 0
  | t :: ts => t.leastLength?.bind fun m => (sumLength? ts).map (m + ·)

/-- The least of the least lengths. -/
def minLength? : List Tree → Option Nat
  | [] => none
  | [t] => t.leastLength?
  | t :: ts => t.leastLength?.bind fun m => (minLength? ts).map (min m)

end

mutual

/-- Whether the condition is met where any match begins. -/
def beginsWith (l : Look) : Tree → Bool
  | empty | literal _ | set _ _ => false
  | look m => m == l
  | times body least _ _ => decide (0 < least) && body.beginsWith l
  | capture body => body.beginsWith l
  | seq parts => frontHas l parts
  | alt branches => allBeginWith l branches

/-- Whether the condition is met by one of the parts at the front, up to the first that is not
widthless. -/
def frontHas (l : Look) : List Tree → Bool
  | [] => false
  | t :: ts => t.beginsWith l || (t.isWidthless && frontHas l ts)

/-- Whether the condition is met where any match of any of the expressions begins. -/
def allBeginWith (l : Look) : List Tree → Bool
  | [] => true
  | t :: ts => t.beginsWith l && allBeginWith l ts

end

mutual

/-- The expression with all sequences turned around; its literals stay as they are. -/
def mirror : Tree → Tree
  | times body least most prefersMore => times body.mirror least most prefersMore
  | capture body => capture body.mirror
  | seq parts => seq (mirrorAll [] parts)
  | alt branches => alt (mirrorEach branches)
  | t => t

/-- The expressions turned around, the last one first, and then those of `done`. -/
def mirrorAll (done : List Tree) : List Tree → List Tree
  | [] => done
  | t :: ts => mirrorAll (t.mirror :: done) ts

/-- The expressions turned around, in the same order. -/
def mirrorEach : List Tree → List Tree
  | [] => []
  | t :: ts => t.mirror :: mirrorEach ts

end

mutual

/-- Whether two expressions are the same in all parts. What captures is never the same, for each
capture is told apart from all others. -/
def same : Tree → Tree → Bool
  | empty, empty => true
  | literal a, literal b => a == b
  | set b s, set c t => b == c && s == t
  | look l, look m => l == m
  | times a least most p, times b least' most' q =>
    least == least' && most == most' && p == q && same a b
  | seq as, seq bs => sameAll as bs
  | alt as, alt bs => sameAll as bs
  | _, _ => false

/-- Whether two lists of expressions are the same one by one. -/
def sameAll : List Tree → List Tree → Bool
  | [], [] => true
  | a :: as, b :: bs => same a b && sameAll as bs
  | _, _ => false

end

mutual

/-- How many expressions there are in an expression. -/
def nodeCount : Tree → Nat
  | times body _ _ _ | capture body => body.nodeCount + 1
  | seq parts => nodeCounts parts + 1
  | alt branches => nodeCounts branches + 1
  | _ => 1

/-- How many expressions there are in the expressions. -/
def nodeCounts : List Tree → Nat
  | [] => 0
  | t :: ts => t.nodeCount + nodeCounts ts

end

end Tree

end ContentFilter.Regex
