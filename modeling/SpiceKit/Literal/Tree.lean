import SpiceKit.Literal.Token

/-!
# Trees of a literal

What a reader makes of tokens: identifiers and numbers are leaves, everything else is a node with
its parts. Signs and keywords leave no trace but the kind of their node.

A `Tree` is what `Reader.read` answers. Values are never computed from it: `Tree.obstacle` asks only
whether there is a value and whether it could be the member of a set, and `description` gives a tree
the name that a complaint has for it.
-/

set_option autoImplicit false

namespace SpiceKit
namespace Literal

inductive Kind where
  | yes
  | no
  | nothing
  | ellipsis
  | text
  | bytes
  | template
  | tuple
  | set
  | dictionary
  | pair
  | doubleStarred
  | starred
  | keyword
  | member
  | call
  | generator
  | setEach
  | dictionaryEach
  | clause
  | positive
  | negative
  | sum
  | difference
  | operation
  | comparison
  | membership
  | relation
  | conditional
  | function
  | named
  | yielded
  | awaited
  deriving DecidableEq, Repr

/-- A tree: a token, or a node with its parts. What a node means is in its kind. Complaints look
into trees (`description`), and `obstacle` tells a literal from other expressions. -/
inductive Tree where
  | leaf (token : Token)
  | node (kind : Kind) (parts : List Tree)
  deriving Repr

namespace Tree

def description : Tree → String
  | .leaf token => if token.kind = .name then "name" else "literal"
  | .node kind _ =>
    match kind with
    | .yes => "True"
    | .no => "False"
    | .nothing => "None"
    | .ellipsis => "ellipsis"
    | .text => "literal"
    | .bytes => "literal"
    | .template => "f-string expression"
    | .tuple => "tuple"
    | .set => "set display"
    | .dictionary => "dict literal"
    | .pair => "expression"
    | .doubleStarred => "expression"
    | .starred => "starred"
    | .keyword => "expression"
    | .member => "attribute"
    | .call => "function call"
    | .generator => "generator expression"
    | .setEach => "set comprehension"
    | .dictionaryEach => "dict comprehension"
    | .clause => "expression"
    | .positive => "expression"
    | .negative => "expression"
    | .sum => "expression"
    | .difference => "expression"
    | .operation => "expression"
    | .comparison => "comparison"
    | .membership => "comparison"
    | .relation => "comparison"
    | .conditional => "conditional expression"
    | .function => "lambda"
    | .named => "named expression"
    | .yielded => "yield expression"
    | .awaited => "await expression"

def isName (name : String) : Tree → Bool
  | .leaf token => token.kind == .name && token.text == name.toList
  | .node _ _ => false

mutual

/-- The part of a tree that nothing can be assigned to where a loop variable is due. Of a membership
only the left side is looked at, for there the variable ends. -/
def notAssignable? : Tree → Option Tree
  | .leaf token => if token.kind = .name then none else some (.leaf token)
  | .node .member _ => none
  | .node .tuple parts => anyNotAssignable? parts
  | .node .starred parts => anyNotAssignable? parts
  | .node .comparison (left :: .node .membership _ :: _) => notAssignable? left
  | .node .comparison _ => none
  | .node kind parts => some (.node kind parts)

def anyNotAssignable? : List Tree → Option Tree
  | [] => none
  | tree :: trees =>
    match notAssignable? tree with
    | some found => some found
    | none => anyNotAssignable? trees

end

end Tree
end Literal
end SpiceKit
