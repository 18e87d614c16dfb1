import SpiceKit.Text.CodePoint
import SpiceKit.Text.Hex
import SpiceKit.Text.Printable

/-!
# Quoted text in messages

A message names a path or a pattern in quotes, so that a reader sees where it begins and ends and
that it holds no hidden characters. Single quotes are used unless the text holds one and no double
quote. What is not printable is escaped in the shortest of three widths, and so is half of a
surrogate pair.
-/

set_option autoImplicit false

namespace SpiceKit
namespace Text

def quoteFor (cs : List Char) : Char := if '\'' ∈ cs ∧ '"' ∉ cs then '"' else '\''

def quoteChar (quote c : Char) : List Char :=
  if c = quote ∨ c = '\\' then ['\\', c]
  else if c = '\t' then ['\\', 't']
  else if c = '\n' then ['\\', 'n']
  else if c = '\r' then ['\\', 'r']
  else if isPrintable c then [c]
  else if c.toNat < 0x100 then '\\' :: 'x' :: hexDigits 2 c.toNat
  else if c.toNat < 0x10000 then '\\' :: 'u' :: hexDigits 4 c.toNat
  else '\\' :: 'U' :: hexDigits 8 c.toNat

def quote (cs : List Char) : List Char :=
  quoteFor cs :: (cs.flatMap (quoteChar (quoteFor cs)) ++ [quoteFor cs])

def quoted (text : String) : String := String.ofList (quote text.toList)

end Text

namespace WideText

def quotePoint (quote : Char) : CodePoint → List Char
  | .char c => Text.quoteChar quote c
  | .half index => '\\' :: 'u' :: Text.hexDigits 4 (CodePoint.half index).toNat

def quoted (text : WideText) : String :=
  let quote := Text.quoteFor (text.points.map CodePoint.shown)
  String.ofList (quote :: (text.points.flatMap (quotePoint quote) ++ [quote]))

end WideText
end SpiceKit
