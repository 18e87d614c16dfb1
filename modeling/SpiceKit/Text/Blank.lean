import SpiceKit.Text.CharRange

/-!
# Blanks

The white space of Unicode together with the four ASCII information separators: ten ranges in all.
The zero-width space and the byte order mark are not blank. `trim` takes blanks off both ends, and
that is the only form of trimming in the library; `words` cuts at them.

Word characters are never blank (`isWordChar_of_isBlank`), so a word and the blanks beside it can be
taken off a text one after the other without a look ahead.
-/

set_option autoImplicit false

namespace SpiceKit
namespace Text

def blankRanges : List (Nat × Nat) :=
  [(0x0009, 0x000D), (0x001C, 0x0020), (0x0085, 0x0085), (0x00A0, 0x00A0), (0x1680, 0x1680),
    (0x2000, 0x200A), (0x2028, 0x2029), (0x202F, 0x202F), (0x205F, 0x205F), (0x3000, 0x3000)]

def isBlank (c : Char) : Bool := inRanges blankRanges c.toNat

def trimEnd (cs : List Char) : List Char := (cs.reverse.dropWhile isBlank).reverse

def trim (cs : List Char) : List Char := trimEnd (cs.dropWhile isBlank)

def blankPieces : List Char → List Char × List (List Char)
  | [] => ([], [])
  | c :: cs =>
    let (piece, pieces) := blankPieces cs
    if isBlank c then ([], piece :: pieces) else (c :: piece, pieces)

def words (cs : List Char) : List (List Char) :=
  let (piece, pieces) := blankPieces cs
  (piece :: pieces).filter (· ≠ [])

end Text
end SpiceKit
