import SpiceKit.Fault

/-!
# Text files

Reading a text file decodes it strictly and unifies its line ends; writing encodes the text as it
is. A byte order mark is a character like any other.

`textOfBytes` is the one way from bytes to a text, for documents, settings and pattern files alike,
so what is said of it holds of all three: it fails just where the bytes are no UTF-8, and it leaves
no carriage return behind. `writeText` fails just where `Disk.write` does.
-/

set_option autoImplicit false

namespace SpiceKit
namespace Disk

/-- The text of some bytes, as reading a file gives it: decoded strictly, with unified line ends.
Where it fails nothing of the text is kept. -/
def textOfBytes (bytes : List UInt8) : Except Utf8.Fault (List Char) :=
  (Utf8.decode bytes).map Text.unifyNewlines

def readText (disk : Disk) (path : Path) : Except Unreadable (List Char) :=
  match disk.read path with
  | .error fault => .error (.path fault)
  | .ok bytes =>
    match textOfBytes bytes with
    | .error fault => .error (.encoding fault)
    | .ok text => .ok text

def writeText (disk : Disk) (path : Path) (text : List Char) : Except PathFault Disk :=
  disk.write path (Utf8.encode text)

end Disk
end SpiceKit
