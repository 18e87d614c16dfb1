import SpiceKit.Text.CellWidth

/-!
# Characters that are drawn as one

A *cluster* is a character with all that is drawn into it: marks and other characters without a cell
of their own, what a joiner melts into it, and a picture selector, which may widen it. A text is cut
at the edges of clusters only: `clusters` divides it, and `fit` keeps the first clusters that a
number of cells has room for, which is what a table does with a cell and a ruled line with its
title.
-/

set_option autoImplicit false

namespace SpiceKit
namespace Text

structure Cluster where
  chars : List Char
  cells : Nat
  deriving DecidableEq, Repr

/-- The clusters of a text behind a cluster that may still grow: its characters, the last one first,
the cells they take, and the character that a picture selector would widen. -/
def clustersFrom (drawn : List Char) (cells : Nat) (last : Option Char) : List Char → List Cluster
  | [] => [⟨drawn.reverse, cells⟩]
  | c :: cs =>
    if c = joiner then
      match cs with
      | [] => [⟨(c :: drawn).reverse, cells⟩]
      | melted :: cs => clustersFrom (melted :: c :: drawn) cells last cs
    else if c = pictureSelector && last.any (fun d => inRanges picturedRanges d.toNat) then
      clustersFrom (c :: drawn) (cells + 1) none cs
    else if charWidth c = 0 then clustersFrom (c :: drawn) cells last cs
    else ⟨drawn.reverse, cells⟩ :: clustersFrom [c] (charWidth c) (some c) cs

def clusters : List Char → List Cluster
  | [] => []
  | c :: cs => clustersFrom [c] (charWidth c) (if charWidth c = 0 then none else some c) cs

def fitClusters : Nat → List Cluster → List Char
  | _, [] => []
  | cells, cluster :: rest =>
    if cluster.cells ≤ cells then cluster.chars ++ fitClusters (cells - cluster.cells) rest
    else List.replicate cells ' '

/-- The beginning of a text that fits into a number of cells, filled up with a space where a wide
cluster would stick out. `clusters` does the cutting and `fitClusters` the counting. -/
def fit (cells : Nat) (text : List Char) : List Char := fitClusters cells (clusters text)

end Text
end SpiceKit
