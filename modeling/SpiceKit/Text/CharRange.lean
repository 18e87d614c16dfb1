/-!
# Ranges of code points

A character class of the Unicode standard is a list of closed ranges. One membership test serves
every table of the library, so a table is data and nothing else.

`inRanges` is that test, and `inRanges_iff` says what it means. Proofs about a character class go
through the latter, or decide a class for one character; none of them walks through a table.
-/

set_option autoImplicit false

namespace SpiceKit
namespace Text

/-- Whether a code point lies in one of the closed ranges of a table. The table is searched from the
front; a proof about a class of characters goes through `inRanges_iff`. -/
def inRanges (table : List (Nat × Nat)) (point : Nat) : Bool :=
  table.any fun range => range.1 ≤ point && point ≤ range.2

theorem inRanges_iff (table : List (Nat × Nat)) (point : Nat) :
    inRanges table point = true ↔ ∃ range ∈ table, range.1 ≤ point ∧ point ≤ range.2 := by
  simp [inRanges]

end Text
end SpiceKit
