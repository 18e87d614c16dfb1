import SpiceKit.Source

/-!
# Brace blocks

Where does the first `{ … }` block at or after an offset end? Braces count wherever they stand, in
strings and comments too. Until the block opens, closing braces mean nothing; from then on one
number, the depth, decides. Depth zero *is* "not yet open": the walk stops at the brace that brings
the depth back to zero, so no separate flag is needed.
-/

set_option autoImplicit false

namespace SpiceKit
namespace Source

/-- The offset behind the brace that closes the first block, for a text that begins at the given
offset inside so many open braces. `closeFrom_cons` is one step of it and `closeFrom_append` a whole
stretch of text. -/
def closeFrom : Nat → Nat → List Char → Option Nat
  | _, _, [] => none
  -- A closing brace out here closes nothing.
  | 0, offset, c :: cs => closeFrom (if c = '{' then 1 else 0) (offset + 1) cs
  | depth + 1, offset, c :: cs =>
    if c = '{' then closeFrom (depth + 2) (offset + 1) cs
    else if c = '}' then
      if depth = 0 then some (offset + 1) else closeFrom depth (offset + 1) cs
    else closeFrom (depth + 1) (offset + 1) cs

/-- The offset behind the first block that opens at or after an offset. It is the end of the
document when no block opens or the block is never closed; `blockEnd_matches` tells the cases apart
by the balance of braces. -/
def blockEnd (source : Source) (offset : Int) : Nat :=
  let start := source.clamp offset
  (closeFrom 0 start (source.text.drop start)).getD source.endOffset

end Source
end SpiceKit
