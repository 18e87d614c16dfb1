import SpiceKit.Declaration.Header
import SpiceKit.Source.Block

/-!
# The declarations of a document

Each kind of declaration is found by its own scan: a header may start wherever no word character
stands before it. The three scans know nothing of each other; their results are put in order of
place. Nesting is not tracked, so a method is a function like any other.

A declaration covers the text from its first modifier to the end of its block.
-/

set_option autoImplicit false

namespace SpiceKit

inductive Kind where
  | cls
  | interface
  | function
  deriving DecidableEq, Repr

namespace Kind

def all : List Kind := [.cls, .interface, .function]

def word : Kind → String
  | .cls => "class"
  | .interface => "interface"
  | .function => "function"

def header? : Kind → List Char → Option Header
  | .cls => Header.class?
  | .interface => Header.interface?
  | .function => Header.function?

end Kind

/-- A declaration of a document. It covers the text from `start` to `stop`, where `stop` is the end
of its block, and its name starts at `nameStart`. -/
structure Declaration where
  kind : Kind
  name : String
  start : Nat
  nameStart : Nat
  stop : Nat
  deriving DecidableEq, Repr

namespace Declaration

/-- Reads a header that does not start inside a word: `Kind.header?` where the character before is
no word character. It is the reader with which the scan for a kind walks through a text. -/
def readHeader (kind : Kind) : Scan.Reader Header := fun before cs =>
  if before.any Text.isWordChar then none
  else (kind.header? cs).map fun header => (header, header.size)

def ofHit (source : Source) (kind : Kind) (hit : Scan.Hit Header) : Declaration :=
  { kind := kind
    name := String.ofList hit.value.name
    start := hit.start
    nameStart := hit.start + hit.value.nameAt
    stop := source.blockEnd hit.start }

def ofKind (source : Source) (kind : Kind) : List Declaration :=
  (Scan.hits (readHeader kind) source.text).map (ofHit source kind)

end Declaration

namespace Source

/-- The declarations of a document, in order of place: one scan for each kind, and then a stable
sort. Scans of different kinds know nothing of each other, so a header of one kind may be found
inside one of another. -/
def declarations (source : Source) : List Declaration :=
  (Kind.all.flatMap (Declaration.ofKind source)).mergeSort fun a b => a.start ≤ b.start

end Source

namespace Declaration

def filterKind (kind : Kind) (declarations : List Declaration) : List Declaration :=
  declarations.filter (·.kind = kind)

/-- What a name means: a class before an interface before a function, and of one kind the first. -/
def resolve (declarations : List Declaration) (name : String) : Option Declaration :=
  Kind.all.findSome? fun kind =>
    declarations.find? fun declaration => declaration.kind = kind ∧ declaration.name = name

end Declaration
end SpiceKit
