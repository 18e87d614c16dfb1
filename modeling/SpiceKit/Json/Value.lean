import SpiceKit.Number.Binary64
import SpiceKit.Text.CodePoint

/-!
# JSON values

The one dynamic type of the library, for it is what a settings file holds before it is understood.
Integers and reals are kept apart: an integer is exact at any size. The members of an object are in
the order of first mention, and a name has one value, the last one given. A text may hold half of a
surrogate pair on its own; a name shows it as the replacement character.
-/

set_option autoImplicit false

namespace SpiceKit
namespace Json

inductive Value where
  | null
  | bool (b : Bool)
  | int (n : Int)
  | real (x : Binary64)
  | text (s : WideText)
  | array (items : List Value)
  | object (members : List (String × Value))

def Value.typeName : Value → String
  | .null => "NoneType"
  | .bool _ => "bool"
  | .int _ => "int"
  | .real _ => "float"
  | .text _ => "str"
  | .array _ => "list"
  | .object _ => "dict"

/-- Sets a member: in its place when the name is known, at the end otherwise. Folded over the
members of a text in order, it gives every name its last value at the place of its first mention
(`lookup_merged`, `names_prefix_mergeInto`). -/
def setMember (name : String) (value : Value) : List (String × Value) → List (String × Value)
  | [] => [(name, value)]
  | member :: members =>
    if member.1 = name then (name, value) :: members
    else member :: setMember name value members

end Json
end SpiceKit
