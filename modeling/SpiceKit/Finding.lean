import SpiceKit.Source
import SpiceKit.Vocabulary

/-!
# Findings

A finding marks a stretch of one line and says what is wrong there. The one rule is that a
statement line ends with a terminator: every line is judged alone, on its last character that is
not blank, and the mark is put on the last character of the line as written. A single carriage
return at the end of a line is not part of what is marked.

`FindingTable` keeps the latest findings per document, in increasing order of document.
-/

set_option autoImplicit false

namespace SpiceKit

inductive Severity where
  | error
  | warning
  | information
  | hint
  deriving DecidableEq, Repr

namespace Severity

def rank : Severity → Nat
  | .error => 1
  | .warning => 2
  | .information => 3
  | .hint => 4

def word : Severity → String
  | .error => "error"
  | .warning => "warning"
  | .information => "information"
  | .hint => "hint"

end Severity

inductive Rule where
  | missingTerminator
  deriving DecidableEq, Repr

namespace Rule

def code : Rule → String
  | .missingTerminator => "spice-missing-terminator"

def message : Rule → String
  | .missingTerminator => "statement should end with a terminator"

def severity : Rule → Severity
  | .missingTerminator => .warning

end Rule

/-- A breach of a rule, on the columns from `start` to `stop` of a line, all counted from zero. -/
structure Finding where
  rule : Rule
  line : Nat
  start : Nat
  stop : Nat
  deriving DecidableEq, Repr

namespace Finding

def dropReturn (line : List Char) : List Char :=
  if line.getLast? = some '\r' then line.dropLast else line

/-- Whether a line needs no terminator: it is blank or ends with one, blanks aside. -/
def isTerminated (line : List Char) : Bool :=
  match (Text.trim line).getLast? with
  | none => true
  | some c => c ∈ Vocabulary.terminators

/-- The finding of a line, if it lacks its terminator: the last character of the line is marked, a
carriage return at its end aside. -/
def ofLine? (number : Nat) (line : List Char) : Option Finding :=
  if isTerminated line then none
  -- There is a character that is not blank, hence no return, so the subtraction is exact.
  else some ⟨.missingTerminator, number, (dropReturn line).length - 1, (dropReturn line).length⟩

end Finding

namespace Source

def findings (source : Source) : List Finding :=
  source.lines.zipIdx.filterMap fun (line, number) => Finding.ofLine? number line

end Source

/-- The latest findings of each document, in increasing order of document. A document without
findings and one that is not known are told apart. -/
structure FindingTable where
  rows : List (String × List Finding) := []
  deriving DecidableEq, Repr

namespace FindingTable

def putRow (document : String) (findings : List Finding) :
    List (String × List Finding) → List (String × List Finding)
  | [] => [(document, findings)]
  | row :: rows =>
    if document < row.1 then (document, findings) :: row :: rows
    else if document = row.1 then (document, findings) :: rows
    else row :: putRow document findings rows

def replace (table : FindingTable) (document : String) (findings : List Finding) : FindingTable :=
  ⟨putRow document findings table.rows⟩

def clear (table : FindingTable) (document : String) : FindingTable :=
  ⟨table.rows.filter (·.1 ≠ document)⟩

/-- The findings of a document; none when it is not known. -/
def get (table : FindingTable) (document : String) : List Finding :=
  (table.rows.lookup document).getD []

def documents (table : FindingTable) : List String := table.rows.map (·.1)

end FindingTable
end SpiceKit
