/-!
# Control characters

A screen drops the control characters that would move the cursor: the bell, the backspace, the
vertical tab, the form feed and the carriage return. Tabs and line feeds are laid out instead.

`settle` is applied to a text once its shortcodes have been replaced and before anything is
measured, so neither spans nor widths count a character that is not drawn.
-/

set_option autoImplicit false

namespace SpiceKit
namespace Screen

def movesCursor (c : Char) : Bool :=
  c == '\x07' || c == '\x08' || c == '\x0b' || c == '\x0c' || c == '\r'

def settle (text : List Char) : List Char := text.filter fun c => !movesCursor c

end Screen
end SpiceKit
