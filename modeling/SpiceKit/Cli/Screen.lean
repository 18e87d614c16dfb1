import SpiceKit.Screen.Layout
import SpiceKit.Screen.Table
import SpiceKit.Workplace

/-!
# What a console shows, as text

The plain text of everything that a command shows: lines as they reach the screen, ruled lines and
tables over its whole width.

`plainText` turns one `Display` into text. It is kept apart from the running of commands, which
notes a `Display` for each thing shown and fixes no layout, so that no result on commands depends on
the width of a screen.
-/

set_option autoImplicit false

namespace SpiceKit
namespace Cli

def onScreen (text : String) : String := String.ofList (Screen.present text.toList)

def tableRows (columns : List Screen.Column) (rows : List (List String)) : List (List String) :=
  Screen.tableLines Screen.columns (columns.map (·.title)) rows

def plainText : Display → String
  | .line text => onScreen text ++ "\n"
  | .notice text => onScreen text ++ "\n"
  | .question text => text
  | .rule title => String.ofList (Screen.ruledLine title.toList) ++ "\n"
  | .table columns rows =>
    String.join ((Screen.drawTable Screen.columns columns rows).map (· ++ "\n"))

end Cli
end SpiceKit
