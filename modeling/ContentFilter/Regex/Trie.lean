/-!
# Tries of literals

Several literals are matched by a tree of their bytes, in which the bytes that literals begin with
in common are shared. Of two literals that both match, the one that was given first is preferred.
So once a literal has ended at a node, no literal after it may share a branch with one before it:
the branches of a node belong to rounds, and a literal that ends there begins the next round.
-/

namespace ContentFilter.Regex

mutual

/-- A node of a trie. -/
inductive Trie where
  /-- The number of rounds that are over, and the branches. -/
  | node (rounds : Nat) (branches : TrieBranches)

/-- The branches of a node, each with its round and its byte. -/
inductive TrieBranches where
  /-- No branch. -/
  | nil
  /-- A branch and the others. -/
  | cons (round byte : Nat) (child : Trie) (rest : TrieBranches)

end

namespace TrieBranches

/-- Changes the node that a branch leads to; a branch that is not there is added. -/
def change (round byte : Nat) (f : Trie → Trie) : TrieBranches → TrieBranches
  | nil => cons round byte (f (.node 0 nil)) nil
  | cons r b child rest =>
    if r = round ∧ b = byte then cons r b (f child) rest
    else cons r b child (rest.change round byte f)

/-- How many branches belong to a round. -/
def countIn (round : Nat) : TrieBranches → Nat
  | nil => 0
  | cons r _ _ rest => (if r = round then 1 else 0) + rest.countIn round

end TrieBranches

namespace Trie

/-- The trie without a literal. -/
def empty : Trie := node 0 .nil

/-- Whether no branch leaves the node. -/
def isLeaf : Trie → Bool
  | node _ .nil => true
  | node _ (.cons _ _ _ _) => false

/-- Adds the bytes of a literal. -/
def insert : List Nat → Trie → Trie
  | [], node rounds branches =>
    if (node rounds branches).isLeaf ∧ rounds ≠ 0 then node rounds branches
    else node (rounds + 1) branches
  | b :: bytes, node rounds branches => node rounds (branches.change rounds b (insert bytes))

/-- The trie of literals. -/
def ofLiterals (literals : List (List Nat)) : Trie :=
  literals.foldl (fun t bytes => t.insert bytes) empty

end Trie

end ContentFilter.Regex
