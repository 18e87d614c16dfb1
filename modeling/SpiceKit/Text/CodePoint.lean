/-!
# Code points

A character outside the basic plane is written in a JSON text as a pair of escapes, and nothing
keeps a text from holding one half of such a pair alone. A half is no character, but it has to
survive being read and written again, so a setting is a text of *code points*: characters, and
halves that lack their other half.

Where a text of characters is needed, a lone half is shown as the replacement character.
-/

set_option autoImplicit false

namespace SpiceKit

/-- A character, or half of a surrogate pair that stands alone: the first halves are those below
1024. A character is never one of the halves, so `ofNat` gives a code point back from its number
(`ofNat_toNat`). -/
inductive CodePoint where
  | char (c : Char)
  | half (index : Fin 2048)
  deriving DecidableEq, Repr

namespace CodePoint

def firstHalf : Nat := 0xD800

def ofNat (n : Nat) : CodePoint :=
  if h : firstHalf ≤ n ∧ n < firstHalf + 2048 then .half ⟨n - firstHalf, by omega⟩
  else .char (Char.ofNat n)

def toNat : CodePoint → Nat
  | .char c => c.toNat
  | .half index => firstHalf + index.val

def shown : CodePoint → Char
  | .char c => c
  | .half _ => '\ufffd'

end CodePoint

/-- A text of code points, which is what a string of a JSON text holds. Settings keep it; a message
shows it by `WideText.toString`, and a text of characters becomes one by `ofString`. -/
structure WideText where
  points : List CodePoint
  deriving DecidableEq, Repr

namespace WideText

def ofString (text : String) : WideText := ⟨text.toList.map .char⟩

def toString (text : WideText) : String := String.ofList (text.points.map CodePoint.shown)

instance : Coe String WideText := ⟨ofString⟩

@[simp]
theorem toString_ofString (text : String) : (ofString text).toString = text := by
  have h : text.toList.map (CodePoint.shown ∘ CodePoint.char) = text.toList := by
    simp [Function.comp_def, CodePoint.shown]
  simp [ofString, toString, List.map_map, h]

end WideText
end SpiceKit
