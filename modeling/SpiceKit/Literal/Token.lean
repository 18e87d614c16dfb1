import SpiceKit.Text.Hex
import SpiceKit.Text.Printable

/-!
# Tokens of a literal

The arguments of a handler are written in a language of literals and expressions. Its text is a
sequence of tokens: names, numbers, quotations and signs, and, where it has several lines, line ends
and changes of indentation. A token knows the line it stands on and how many brackets are open
behind it.

What is wrong with the text itself, before any grammar, is a `ScanFault`.
-/

set_option autoImplicit false

namespace SpiceKit
namespace Literal

inductive TokenKind where
  | name
  | number
  | quotation
  | sign
  | newline
  | indent
  | dedent
  | finish
  deriving DecidableEq, Repr

/-- A token: its kind and text, the line on which it stands, how many brackets are open behind it,
and whether the end of the whole text was seen while it was looked for. -/
structure Token where
  kind : TokenKind
  text : List Char
  line : Nat
  depth : Nat
  sawEnd : Bool := false
  deriving DecidableEq, Repr

def keywords : List String :=
  ["False", "None", "True", "and", "as", "assert", "async", "await", "break", "class", "continue",
    "def", "del", "elif", "else", "except", "finally", "for", "from", "global", "if", "import",
    "in", "is", "lambda", "nonlocal", "not", "or", "pass", "raise", "return", "try", "while",
    "with", "yield"]

def Token.isIdentifier (token : Token) : Bool :=
  token.kind == .name && !keywords.contains (String.ofList token.text)

def Token.isWord (word : String) (token : Token) : Bool :=
  (token.kind == .sign || token.kind == .name) && token.text == word.toList

inductive NumberSystem where
  | decimal
  | hexadecimal
  | octal
  | binary
  | imaginary
  deriving DecidableEq, Repr

def NumberSystem.word : NumberSystem → String
  | .decimal => "decimal"
  | .hexadecimal => "hexadecimal"
  | .octal => "octal"
  | .binary => "binary"
  | .imaginary => "imaginary"

inductive ScanFault where
  /-- A character that stands in no token. -/
  | character (c : Char)
  /-- A number that is cut short or runs into a name. -/
  | number (system : NumberSystem)
  /-- A decimal digit that the system does not have. -/
  | digit (c : Char) (system : NumberSystem)
  /-- A decimal number that starts with a zero. -/
  | leadingZero
  /-- A quotation that is not closed, up to a line. -/
  | openQuotation (triple : Bool) (line : Nat)
  /-- More open brackets than are allowed. -/
  | manyBrackets
  /-- A closing bracket where none is open. -/
  | unopened (closing : Char)
  /-- A closing bracket of another kind than the open one, which is on the given other line. -/
  | mismatched (closing opening : Char) (line : Option Nat)
  /-- The text ends and a bracket is open. -/
  | unclosed (opening : Char)
  /-- A backslash that does not stand at the end of a line. -/
  | continuation
  /-- A line that is indented less than the one before and like no other. -/
  | unevenIndent
  /-- Indentation that depends on the width of a tab. -/
  | mixedIndent
  /-- More levels of indentation than are allowed. -/
  | deepIndent
  deriving DecidableEq, Repr

def codeText (c : Char) : String :=
  let digits := (Nat.toDigits 16 c.toNat).map Char.toUpper
  String.ofList (List.replicate (4 - digits.length) '0' ++ digits)

def ScanFault.message : ScanFault → String
  | .character c =>
    if Text.isPrintable c then
      "invalid character '" ++ String.singleton c ++ "' (U+" ++ codeText c ++ ")"
    else "invalid non-printable character U+" ++ codeText c
  | .number system => "invalid " ++ system.word ++ " literal"
  | .digit c system =>
    "invalid digit '" ++ String.singleton c ++ "' in " ++ system.word ++ " literal"
  | .leadingZero =>
    "leading zeros in decimal integer literals are not permitted; " ++
      "use an 0o prefix for octal integers"
  | .openQuotation triple line =>
    "unterminated " ++ (if triple then "triple-quoted " else "") ++
      "string literal (detected at line " ++ toString line ++ ")"
  | .manyBrackets => "too many nested parentheses"
  | .unopened closing => "unmatched '" ++ String.singleton closing ++ "'"
  | .mismatched closing opening line =>
    "closing parenthesis '" ++ String.singleton closing ++
      "' does not match opening parenthesis '" ++ String.singleton opening ++ "'" ++
      (match line with
      | some line => " on line " ++ toString line
      | none => "")
  | .unclosed opening => "'" ++ String.singleton opening ++ "' was never closed"
  | .continuation => "unexpected character after line continuation character"
  | .unevenIndent => "unindent does not match any outer indentation level"
  | .mixedIndent => "inconsistent use of tabs and spaces in indentation"
  | .deepIndent => "too many levels of indentation"

end Literal
end SpiceKit
