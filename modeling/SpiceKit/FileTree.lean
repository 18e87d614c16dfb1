/-!
# File trees

A node is a file with its bytes or a folder with named nodes. The entries of a folder are kept in
increasing order of name by every operation here, so that walking a tree needs no sorting.

`find?` and `putEntry` look at one level; `get?`, `put` and `graft` go down a list of names. What a
tree of a disk satisfies, the order among it, is `Node.Proper`, and results on walks and writes
start from it.
-/

set_option autoImplicit false

namespace SpiceKit

inductive Node where
  | file (bytes : List UInt8)
  | folder (entries : List (List Char × Node))

namespace Node

def emptyFolder : Node := .folder []

def isFile : Node → Bool
  | .file _ => true
  | .folder _ => false

def isFolder : Node → Bool
  | .file _ => false
  | .folder _ => true

def find? (name : List Char) : List (List Char × Node) → Option Node
  | [] => none
  | entry :: entries => if entry.1 = name then some entry.2 else find? name entries

/-- Puts a node under a name, over an earlier one of that name or in its place by order. -/
def putEntry (name : List Char) (node : Node) :
    List (List Char × Node) → List (List Char × Node)
  | [] => [(name, node)]
  | entry :: entries =>
    if name < entry.1 then (name, node) :: entry :: entries
    else if entry.1 = name then (name, node) :: entries
    else entry :: putEntry name node entries

def get? : Node → List (List Char) → Option Node
  | node, [] => some node
  | .file _, _ :: _ => none
  | .folder entries, name :: names => (find? name entries).bind fun node => node.get? names

/-- Puts a node at the end of some names; nothing changes when the folder that is to hold it is not
there. Writing a file and making a folder are both this, once `Disk.target` has let them. -/
def put : Node → List (List Char) → Node → Node
  | _, [], target => target
  | .file bytes, _ :: _, _ => .file bytes
  -- The last name need not be there; all those before it have to.
  | .folder entries, [name], target => .folder (putEntry name target entries)
  | .folder entries, name :: names, target =>
    match find? name entries with
    | none => .folder entries
    | some node => .folder (putEntry name (node.put names target) entries)

/-- Puts a node at the end of some names and makes the folders on the way that are missing. -/
def graft : Node → List (List Char) → Node → Node
  | _, [], target => target
  | .file bytes, _ :: _, _ => .file bytes
  | .folder entries, name :: names, target =>
    let node := (find? name entries).getD emptyFolder
    .folder (putEntry name (node.graft names target) entries)

end Node
end SpiceKit
