import SpiceKit.Screen.Shortcode.Table
import SpiceKit.Text.Blank
import SpiceKit.Text.Hex
import SpiceKit.Text.Lines
import SpiceKit.Text.Lowercase

/-!
# Shortcodes

A *shortcode* is a word between two colons that names a picture, in upper or lower case. An ending
`-text` or `-emoji` asks for one of the two forms that some pictures have, and adds the character
that selects it.

A text is searched from the left. The word ends at the first colon and holds no blank; one that
names nothing stays as it is, together with both of its colons, so that its second colon never opens
a further shortcode.
-/

set_option autoImplicit false

namespace SpiceKit
namespace Shortcode

/-! ## The table -/

/-- The tones of skin: the word, and the character behind the first one of a picture. -/
def tones : List (List Char × Char) :=
  [("light".toList, Char.ofNat 0x1F3FB), ("medium-light".toList, Char.ofNat 0x1F3FC),
    ("medium".toList, Char.ofNat 0x1F3FD), ("medium-dark".toList, Char.ofNat 0x1F3FE),
    ("dark".toList, Char.ofNat 0x1F3FF)]

/-- A picture in a tone of skin, which takes the place of a form selector. -/
def inTone (tone : Char) : List Char → List Char
  | [] => []
  -- A tone already asks for the coloured form.
  | c :: cs => if cs.head? = some '\ufe0f' then c :: tone :: cs.tail else c :: tone :: cs

def hexNumber (digits : List Char) : Nat :=
  digits.foldl (fun n digit => n * 16 + (Text.hexValue? digit).getD 0) 0

def pictureOf (code : List Char) : List Char :=
  (Text.split '-' code).map fun digits => Char.ofNat (hexNumber digits)

/-- A word for a picture, and those for it in each tone of skin if it is marked. -/
def wordsFor (picture : List Char) : List Char → List (List Char × List Char)
  | '~' :: word =>
    (word, picture) :: tones.map fun (name, tone) =>
      (word ++ '_' :: name ++ "_skin_tone".toList, inTone tone picture)
  | word => [(word, picture)]

def ofEntry (entry : List Char) : List (List Char × List Char) :=
  match (Text.split ' ' entry).filter (· ≠ []) with
  | [] => []
  | code :: words => words.flatMap (wordsFor (pictureOf code))

def pictures : List (List Char × List Char) :=
  (Text.split ',' (entries.toList.map fun c => if c = '\n' then ' ' else c)).flatMap ofEntry

def picture? (word : List Char) : Option (List Char) :=
  (pictures.find? fun entry => entry.1 == word).map (·.2)

/-! ## Texts -/

def forms : List (List Char × Char) := [("-text".toList, '\ufe0e'), ("-emoji".toList, '\ufe0f')]

/-- A word without the ending that asks for a form, and what selects the form. -/
def splitForm (word : List Char) : List Char × List Char :=
  match forms.find? fun form => form.1.isSuffixOf word with
  | some (ending, selector) => (word.take (word.length - ending.length), [selector])
  | none => (word, [])

def meaning? (word : List Char) : Option (List Char) :=
  let (name, selector) := splitForm word
  (picture? (Text.lower name)).map (· ++ selector)

/-- The text with pictures for shortcodes; `word` is what was read since an open colon, last
first. -/
def expandFrom : Option (List Char) → List Char → List Char
  | none, [] => []
  | some word, [] => ':' :: word.reverse
  | none, c :: cs => if c = ':' then expandFrom (some []) cs else c :: expandFrom none cs
  | some word, c :: cs =>
    if c = ':' then
      -- The colon is spent either way.
      (meaning? word.reverse).getD (':' :: (word.reverse ++ [':'])) ++ expandFrom none cs
    else if Text.isBlank c then ':' :: (word.reverse ++ c :: expandFrom none cs)
    else expandFrom (some (c :: word)) cs

def expand (cs : List Char) : List Char := expandFrom none cs

end Shortcode
end SpiceKit
