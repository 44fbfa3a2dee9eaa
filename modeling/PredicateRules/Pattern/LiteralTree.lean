import PredicateRules.Pattern.Extent

namespace PredicateRules

/-- What can follow a common front of literals, each byte with what follows it. A literal that ends
here stands between the longer ones before and after it. -/
inductive LiteralTree where
  | node (before : List (List (Nat × LiteralTree))) (after : List (Nat × LiteralTree))

namespace LiteralTree

def root : LiteralTree := node [] []

def isLeaf : LiteralTree → Bool
  | node before after => before.all List.isEmpty && after.isEmpty

/-- A literal ends here. Nothing is noted for another one that ends at a leaf. -/
def ended : LiteralTree → LiteralTree
  | node before after =>
    if (node before after).isLeaf && !before.isEmpty then node before after
    else node (before ++ [after]) []

def ofBytes : List Nat → LiteralTree
  | [] => ended root
  | byte :: rest => node [] [(byte, ofBytes rest)]

def insertInto (byte : Nat) (rest : List Nat) (insert : LiteralTree → LiteralTree) :
    List (Nat × LiteralTree) → List (Nat × LiteralTree)
  | [] => [(byte, ofBytes rest)]
  | (other, tree) :: others =>
    if other = byte then (other, insert tree) :: others
    else (other, tree) :: insertInto byte rest insert others

def insert : List Nat → LiteralTree → LiteralTree
  | [], tree => tree.ended
  | byte :: rest, node before after => node before (insertInto byte rest (insert rest) after)

/-- A group of bytes takes one state, which tells the bytes apart if there are several. -/
def addGroup (size : Nat) (extent : Extent) : Extent :=
  match size with
  | 0 => extent
  | 1 => extent.addStates 1
  | size => (extent.addStates 1).addTransitions size

mutual

/-- The states below the place of the tree, and one to choose between its groups and the ends between
them. A leaf takes none. -/
def addTo : LiteralTree → Extent → Extent
  | node before after, extent =>
    if (node before after).isLeaf then extent
    else
      let groups := (before ++ [after]).countP fun group => !group.isEmpty
      let extent := addGroups before extent
      let extent := addGroup after.length (addBranches after extent)
      (extent.addStates 1).addAlternatives (groups + before.length)

def addGroups : List (List (Nat × LiteralTree)) → Extent → Extent
  | [], extent => extent
  | group :: groups, extent => addGroups groups (addGroup group.length (addBranches group extent))

def addBranches : List (Nat × LiteralTree) → Extent → Extent
  | [], extent => extent
  | (_, tree) :: branches, extent => addBranches branches (addTo tree extent)

end

end LiteralTree

end PredicateRules
