import SpiceKit.Text.Blank
import SpiceKit.Text.WordChar

/-!
# Pieces at the front of a text

The grammars of this library are sequences of keywords, gaps and names. Each function here takes one
such piece off the front of a text and answers what is left, or nothing when the piece is not
there. Blanks and word characters never overlap, so taking the longest piece is never wrong and
nothing has to be given back.
-/

set_option autoImplicit false

namespace SpiceKit
namespace Text

def dropText? (text cs : List Char) : Option (List Char) :=
  if text.isPrefixOf cs then some (cs.drop text.length) else none

def dropGap (cs : List Char) : List Char := cs.dropWhile isBlank

def dropGap? : List Char → Option (List Char)
  | [] => none
  | c :: cs => if isBlank c then some (dropGap cs) else none

/-- Takes a name, the longest run of word characters, off the front; it is not empty. The reader of
words and the grammars of headers and calls all take names by this one function. -/
def takeName? (cs : List Char) : Option (List Char × List Char) :=
  match cs.takeWhile isWordChar with
  | [] => none
  | c :: name => some (c :: name, cs.dropWhile isWordChar)

/-- Takes one of several keywords and the gap behind it off the front. The first keyword of the list
that is there is taken; where no keyword begins another, the order does not matter
(`dropModifier?_eq_some_iff`). -/
def dropModifier? (keywords : List (List Char)) (cs : List Char) : Option (List Char) :=
  keywords.findSome? fun keyword => (dropText? keyword cs).bind dropGap?

theorem length_dropGap_le (cs : List Char) : (dropGap cs).length ≤ cs.length :=
  (List.dropWhile_sublist _).length_le

theorem length_dropGap?_lt {cs rest : List Char} (h : dropGap? cs = some rest) :
    rest.length < cs.length := by
  cases cs with
  | nil => simp [dropGap?] at h
  | cons c cs =>
    rw [dropGap?] at h
    split at h
    · cases h
      have := length_dropGap_le cs
      simp only [List.length_cons]
      omega
    · cases h

theorem length_dropText?_le {text cs rest : List Char} (h : dropText? text cs = some rest) :
    rest.length ≤ cs.length := by
  rw [dropText?] at h
  split at h
  · cases h
    simp
  · cases h

theorem length_takeName?_lt {cs name rest : List Char} (h : takeName? cs = some (name, rest)) :
    rest.length < cs.length := by
  have key : (cs.takeWhile isWordChar).length + (cs.dropWhile isWordChar).length = cs.length := by
    rw [← List.length_append, List.takeWhile_append_dropWhile]
  rw [takeName?] at h
  split at h
  · cases h
  · rename_i c name' htake
    cases h
    rw [htake] at key
    simp only [List.length_cons] at key
    omega

theorem length_dropModifier?_lt {keywords : List (List Char)} {cs rest : List Char}
    (h : dropModifier? keywords cs = some rest) : rest.length < cs.length := by
  obtain ⟨keyword, _, hk⟩ := List.exists_of_findSome?_eq_some h
  obtain ⟨middle, hm, hr⟩ := Option.bind_eq_some_iff.1 hk
  have h1 := length_dropText?_le hm
  have h2 := length_dropGap?_lt hr
  omega

end Text
end SpiceKit
