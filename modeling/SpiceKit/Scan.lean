/-!
# Leftmost, non-overlapping scans

Declarations, words and call heads are all found the same way: walk the text from the left, try to
read an item at each place, and after an item go on behind its last character. `hits` is that walk
once and for all. The reader sees the character before the place, so that an item can insist on
starting a word.

The walk is structural in the text: what an item covers is skipped by a counter, not by a jump, so
no argument about progress is needed.
-/

set_option autoImplicit false

namespace SpiceKit
namespace Scan

/-- An item found in a text: where it starts, where it stops (exclusive) and what it is. -/
structure Hit (α : Type) where
  start : Nat
  stop : Nat
  value : α
  deriving DecidableEq, Repr

/-- Reads an item off the front of a text, given the character before it: the item and the number
of characters it covers. -/
abbrev Reader (α : Type) : Type := Option Char → List Char → Option (α × Nat)

variable {α : Type}

/-- The walk of `hits`, at an offset, behind a character, with so many characters still to skip. -/
def hitsFrom (read : Reader α) : Option Char → Nat → Nat → List Char → List (Hit α)
  | _, _, _, [] => []
  -- What an item covers is passed over, but its last character still stands before the next.
  | _, offset, skip + 1, c :: cs => hitsFrom read (some c) (offset + 1) skip cs
  | before, offset, 0, c :: cs =>
    match read before (c :: cs) with
    | some (value, size) =>
      -- The character in hand is one of those that the item covers.
      ⟨offset, offset + size, value⟩ :: hitsFrom read (some c) (offset + 1) (size - 1) cs
    | none => hitsFrom read (some c) (offset + 1) 0 cs

/-- All items of a text, from left to right, none overlapping an earlier one. Declarations, words
and heads of calls are found by it, each with a reader of its own, and `hits_leftmost` says once
what it finds. -/
def hits (read : Reader α) (cs : List Char) : List (Hit α) := hitsFrom read none 0 0 cs

end Scan
end SpiceKit
