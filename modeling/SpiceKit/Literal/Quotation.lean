import SpiceKit.Literal.Complaint
import SpiceKit.Literal.Scanner
import SpiceKit.Literal.Tree

/-!
# Quotations of a literal

A quotation is a text, a sequence of bytes or a template, as the letters before it say. Quotations
side by side are one, if they are not texts and bytes mixed. In all but raw ones a backslash starts
an escape, and some escapes can be wrong.

The place of a wrong escape is counted in characters of a form of the text that is all ASCII: a
character beyond it stands there as an escape of ten characters.
-/

set_option autoImplicit false

namespace SpiceKit
namespace Literal

structure Quotation where
  raw : Bool
  bytes : Bool
  template : Bool
  content : List Char
  deriving DecidableEq, Repr

namespace Quotation

/-- What stands between the marks of a quotation without letters, be they single or triple. -/
def unmarked (text : List Char) : List Char :=
  let inner := (text.drop 1).dropLast
  match text with
  | mark :: _ =>
    if 4 ≤ inner.length && [mark, mark].isPrefixOf inner then (inner.drop 2).dropLast.dropLast
    else inner
  | [] => []

def ofToken (token : Token) : Quotation :=
  let letters := (token.text.takeWhile Char.isAlpha).map Char.toLower
  { raw := letters.contains 'r', bytes := letters.contains 'b', template := letters.contains 'f'
    content := unmarked (token.text.drop letters.length) }

/-! ## Escapes -/

def isAscii (c : Char) : Bool := c.toNat < 128

def escaped (c : Char) : List Char := '\\' :: 'U' :: Text.hexDigits 8 c.toNat

/-- A text in which each character beyond ASCII is an escape. A backslash before one stays a
backslash. -/
def ascii : List Char → List Char
  | [] => []
  | ['\\'] => "\\u005c".toList
  | '\\' :: c :: cs =>
    if isAscii c then '\\' :: c :: ascii cs else "\\u005c".toList ++ escaped c ++ ascii cs
  | c :: cs => if isAscii c then c :: ascii cs else escaped c ++ ascii cs

/-- How many of the first so many characters are hexadecimal digits, up to the first that is none.
-/
def hexCount (most : Nat) (cs : List Char) : Nat :=
  ((cs.take most).takeWhile fun c => (Text.hexValue? c).isSome).length

def hexNumber (cs : List Char) : Nat :=
  cs.foldl (fun total c => total * 16 + (Text.hexValue? c).getD 0) 0

def lastPoint : Nat := 0x10FFFF

/-- What is wrong with an escape of so many hexadecimal digits, at a place of the text. -/
def wrongDigits? (place count : Nat) (fault : EscapeFault) (cs : List Char) : Option Complaint :=
  if hexCount count cs < count then some (.escape place (place + 2 + hexCount count cs) fault)
  else if lastPoint < hexNumber (cs.take count) then
    some (.escape place (place + 2 + count) .noCharacter)
  else none

def inCharacterName (c : Char) : Bool := c.isAlphanum || c == ' ' || c == '-'

/-- What is wrong with an escape by name, at a place of the text. Whatever is spelt like the name of
a character passes for one. -/
def wrongName? (place : Nat) : List Char → Option Complaint
  | '{' :: cs =>
    let name := cs.takeWhile (· ≠ '}')
    if name.length = cs.length then some (.escape place (place + 3 + name.length) .noName)
    else if name = [] then some (.escape place (place + 3) .noName)
    else if name.all inCharacterName then none
    else some (.escape place (place + 4 + name.length) .unknownName)
  | _ => some (.escape place (place + 2) .noName)

/-- The first wrong escape of a text in ASCII, from a place on. A text with characters beyond ASCII
goes through `ascii` first, so a place is one among the escapes. -/
def wrongEscape? (place : Nat) : List Char → Option Complaint
  | [] => none
  | '\\' :: c :: cs =>
    let found := match c with
      | 'x' => wrongDigits? place 2 .shortByte cs
      | 'u' => wrongDigits? place 4 .shortUnit cs
      | 'U' => wrongDigits? place 8 .shortPoint cs
      | 'N' => wrongName? place cs
      | _ => none
    found.or (wrongEscape? (place + 2) cs)
  | _ :: cs => wrongEscape? (place + 1) cs

def wrongByte? (place : Nat) : List Char → Option Complaint
  | [] => none
  | '\\' :: c :: cs =>
    if c = 'x' ∧ hexCount 2 cs < 2 then some (.byteEscape place)
    else wrongByte? (place + 2) cs
  | _ :: cs => wrongByte? (place + 1) cs

def wrongText? (raw : Bool) (content : List Char) : Option Complaint :=
  if raw then none else wrongEscape? 0 (ascii content)

def wrong? (quotation : Quotation) : Option Complaint :=
  if quotation.bytes then
    if !quotation.content.all isAscii then some .wideByte
    else if quotation.raw then none
    else wrongByte? 0 quotation.content
  else wrongText? quotation.raw quotation.content

end Quotation
end Literal
end SpiceKit
