import SpiceKit.Disk.Text
import SpiceKit.Source

/-!
# Documents

A document is a text under edit: the address by which an editor knows it, the path of its file, its
text, which may differ from what the file holds, and how often it was edited.

`Document.load` reads a file and makes its address; `Document.edit` takes a new text and leaves the
rest as it is. Saving is no matter of the document but of an action (`Work.saveDocument`). The
source of a document (`Document.source`) is made anew from its text each time, so it is never out of
date.
-/

set_option autoImplicit false

namespace SpiceKit

/-- A text under edit. The text is one of characters. Half of a surrogate pair, which a `WideText`
can hold and an editor could hand over, is none: there are no bytes for it, saving such a text fails
when the file is open already and leaves it empty, and texts that hold one are left out here. -/
structure Document where
  uri : String
  path : Path
  text : List Char
  version : Nat := 0
  deriving DecidableEq, Repr

namespace Document

def isPlain (b : UInt8) : Bool :=
  let c := Char.ofNat b.toNat
  b.toNat < 128 && (c.isAlphanum || c == '_' || c == '.' || c == '-' || c == '~' || c == '/')

/-- A byte in an address: itself, or a percent sign and two upper-case hexadecimal digits. -/
def escapeByte (b : UInt8) : List Char :=
  if isPlain b then [Char.ofNat b.toNat]
  else '%' :: (Text.hexDigits 2 b.toNat).map Char.toUpper

/-- The address of the file at some names from the top of the disk. -/
def uriOf (names : List (List Char)) : String :=
  String.ofList ("file://".toList ++
    (Utf8.encode ('/' :: Path.joinNames names)).flatMap escapeByte)

def load (disk : Disk) (path : Path) : Except Unreadable Document :=
  (disk.readText path).map fun text =>
    { uri := uriOf (disk.lexicalPlace path), path := path, text := text }

def source (document : Document) : Source := Source.ofText document.text

def edit (document : Document) (text : List Char) : Document :=
  { document with text := text, version := document.version + 1 }

end Document
end SpiceKit
