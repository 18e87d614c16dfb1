import SpiceKit.Encoding.Utf8
import SpiceKit.Ignore.Expression
import SpiceKit.Screen.Markup
import SpiceKit.Settings
import SpiceKit.ShellWords
import SpiceKit.Tool

/-!
# Faults

Everything that can go wrong, as one type of causes with one function for their wording. Where two
parts of the library report the same cause they report the same constructor.

`Fault.message` words a fault without knowing where it is shown. What becomes of one is decided
where commands run: `isActionFault` tells those that are reported there from those that leave the
command. `Unreadable` is apart because a file that cannot be read is a fault for one command and a
line of a report for another.
-/

set_option autoImplicit false

namespace SpiceKit

inductive Unreadable where
  | path (fault : PathFault)
  | encoding (fault : Utf8.Fault)
  deriving DecidableEq, Repr

def Unreadable.message : Unreadable → String
  | .path fault => fault.message
  | .encoding fault => fault.message

inductive Fault where
  | settingsUnreadable (path : Path) (reason : Unreadable)
  | settingsMalformed (path : Path) (text : List Char) (fault : Json.Fault)
  /-- The settings file holds something other than an object. -/
  | settingsNoObject (path : Path)
  | settingsType (path : Path) (key : Settings.Key) (found : String)
  | settingsUnwritable (path : Path) (fault : OsFault)
  /-- An integer in the settings file has too many digits. -/
  | longInteger (text : List Char) (fault : Json.Fault)
  | deepNesting (text : List Char) (fault : Json.Fault)
  /-- The time limit is beyond the greatest number. -/
  | hugeTimeLimit
  | tool (fault : Tool.Fault)
  | words (fault : ShellWords.Fault)
  /-- A tool without a time limit does not come to an end. -/
  | endlessRun (command : List WideText)
  /-- A question was asked and the input is at its end. -/
  | endOfInput
  | nullName
  /-- More folders are missing on the way to a file than can be made. -/
  | deepPath
  /-- The system refuses to tell what is at a path. -/
  | system (fault : OsFault)
  | unreadable (reason : Unreadable)
  | pattern (line : String)
  /-- A line of a pattern file has a range whose ends are in the wrong order. -/
  | reversedRange (range : Ignore.Reversed)
  | markup (fault : Markup.Fault)
  deriving DecidableEq, Repr

/-- A command as a fault names it: its words in quotes, in brackets. -/
def commandText (command : List WideText) : String :=
  "[" ++ ", ".intercalate (command.map WideText.quoted) ++ "]"

def Fault.message : Fault → String
  | .settingsUnreadable path reason =>
    "Cannot read settings file " ++ path.toString ++ ": " ++ reason.message
  | .settingsMalformed path text fault =>
    "Cannot read settings file " ++ path.toString ++ ": " ++ fault.message text
  | .settingsNoObject path => "Settings file must contain a JSON object: " ++ path.toString
  | .settingsType path key found =>
    "Setting '" ++ key.name ++ "' must be " ++ key.expected ++ ", got " ++ found ++ ": " ++
      path.toString
  | .settingsUnwritable path fault =>
    "Cannot write settings file " ++ path.toString ++ ": " ++ fault.message
  | .longInteger text fault => fault.message text
  | .deepNesting text fault => fault.message text
  | .hugeTimeLimit => "int too large to convert to float"
  | .tool fault => fault.message
  | .words fault => fault.message
  | .endlessRun command =>
    "Command '" ++ commandText command ++ "' timed out after None seconds"
  | .endOfInput => "EOF when reading a line"
  | .nullName => PathFault.nullName.message
  | .deepPath => PathFault.deep.message
  | .system fault => fault.message
  | .unreadable reason => reason.message
  | .reversedRange range => range.message
  | .markup fault => fault.message
  | .pattern line => "Invalid git pattern: " ++ Text.quoted line

end SpiceKit
