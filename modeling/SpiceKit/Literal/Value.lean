import SpiceKit.Literal.Reader
import SpiceKit.Literal.Template
import SpiceKit.Text.Lines

/-!
# The value of a literal

A literal is a number, a text, bytes, one of the constants, or a tuple, a set or a dictionary of
such. A number may have a sign, and a real one may have an imaginary one added to it. Members of a
set and keys of a dictionary must not be sets or dictionaries, nor tuples that hold any.

No value is ever used here, only whether there is one; so a value is known by the collection, if
any, that keeps it from being a member.
-/

set_option autoImplicit false

namespace SpiceKit
namespace Literal

inductive Collection where
  | set
  | dictionary
  deriving DecidableEq, Repr

def Collection.word : Collection → String
  | .set => "set"
  | .dictionary => "dict"

/-- What is wrong with a literal: its text, or what it says. The text is read by `Literal.read`;
what it says is looked at by `obstacle`. -/
inductive Fault where
  | text (fault : SyntaxFault)
  /-- It is an expression and no literal. -/
  | noLiteral
  /-- It puts the pairs of another dictionary into a dictionary. -/
  | spread
  /-- It makes a collection a member. -/
  | member (collection : Collection)
  deriving DecidableEq, Repr

def Fault.message : Fault → String
  | .text fault => fault.message
  | .noLiteral => "malformed node or string"
  | .spread => "malformed node or string: None"
  | .member collection => "unhashable type: '" ++ collection.word ++ "'"

namespace Tree

def imaginary? : Tree → Option Bool
  | .leaf token => if token.kind = .number then some (Numeral.isImaginary token.text) else none
  | .node _ _ => none

def signedImaginary? : Tree → Option Bool
  | .node .positive [tree] => imaginary? tree
  | .node .negative [tree] => imaginary? tree
  | tree => imaginary? tree

mutual

/-- The collection that keeps the value of a tree from being a member. -/
def obstacle : Tree → Except Fault (Option Collection)
  | .leaf token => if token.kind = .number then .ok none else .error .noLiteral
  | .node kind parts =>
    match kind, parts with
    | .yes, _ => .ok none
    | .no, _ => .ok none
    | .nothing, _ => .ok none
    | .ellipsis, _ => .ok none
    | .text, _ => .ok none
    | .bytes, _ => .ok none
    | .tuple, parts => firstObstacle parts
    | .set, parts => do
      noObstacle parts
      return some .set
    | .dictionary, parts => do
      noKeyObstacle parts
      return some .dictionary
    | .call, [called] => if called.isName "set" then .ok (some .set) else .error .noLiteral
    | .sum, [left, right] =>
      if signedImaginary? left = some false ∧ imaginary? right = some true then .ok none
      else .error .noLiteral
    | .difference, [left, right] =>
      if signedImaginary? left = some false ∧ imaginary? right = some true then .ok none
      else .error .noLiteral
    | .positive, [tree] => if (imaginary? tree).isSome then .ok none else .error .noLiteral
    | .negative, [tree] => if (imaginary? tree).isSome then .ok none else .error .noLiteral
    | _, _ => .error .noLiteral

/-- The first collection that keeps one of several values from being a member. -/
def firstObstacle : List Tree → Except Fault (Option Collection)
  | [] => .ok none
  | tree :: trees => do
    let first ← obstacle tree
    let rest ← firstObstacle trees
    return first.or rest

def noObstacle : List Tree → Except Fault Unit
  | [] => .ok ()
  | tree :: trees => do
    match ← obstacle tree with
    | some collection => throw (.member collection)
    | none => noObstacle trees

/-- Makes sure that the keys of pairs can be keys, and that the pairs have values. -/
def noKeyObstacle : List Tree → Except Fault Unit
  | [] => .ok ()
  | .node .pair [key, value] :: pairs => do
    let found ← obstacle key
    let _ ← obstacle value
    match found with
    | some collection => throw (.member collection)
    | none => noKeyObstacle pairs
  | _ :: _ => .error .spread

end

end Tree

/-- The tree of a text, read by a rule. A field of a template is read like a text of its own, which
is shorter, so that `depth` may be the length of the text. -/
def read : Nat → Bool → Rule → List Char → Except SyntaxFault (Option Tree)
  | 0, inField, _, _ => .error (.complaint inField .unexpected)
  | depth + 1, inField, rule, text =>
    let scanned := scan text
    Reader.read {
      tokens := scanned.tokens.toArray
      ending := scanned.ending
      inField := inField
      judge := Quotation.judge inField fun text => do
        let _ ← read depth true .field text } rule

def check (text : List Char) : Except Fault Unit :=
  let text := Text.unifyNewlines text
  match read (text.length + 1) false .whole text with
  | .error fault => .error (.text fault)
  | .ok none => .error .noLiteral
  | .ok (some tree) => (Tree.obstacle tree).map fun _ => ()

end Literal
end SpiceKit
