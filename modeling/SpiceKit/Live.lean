import SpiceKit.Document
import SpiceKit.Finding

/-!
# Checking while editing

Each time a document is opened or changed, its findings are computed anew, or dropped when checking
while editing is off; closing it drops them too. `Live` is the state behind that: the settings, the
findings per address, and the documents as last seen, closed ones included, so that a change has a
version to count on from.
-/

set_option autoImplicit false

namespace SpiceKit

inductive Event where
  | opened (uri : String) (text : List Char)
  | changed (uri : String) (text : List Char)
  | closed (uri : String)
  | configured (settings : Settings)
  deriving DecidableEq, Repr

/-- The settings, the findings of the open documents, and the documents as last seen. -/
structure Live where
  settings : Settings := {}
  table : FindingTable := {}
  seen : List (String × Document) := []
  deriving DecidableEq, Repr

namespace Live

/-- Computes the findings of a document anew, or drops them when checking is off. Answers with the
findings that are then known of the document, of which there are none if it is not known. -/
def refresh (settings : Settings) (document : Document) (table : FindingTable) :
    List Finding × FindingTable :=
  if settings.liveCheck then
    -- A document without findings has a row too, which tells it from one that is not known.
    let table := table.replace document.uri document.source.findings
    (table.get document.uri, table)
  else ([], table.clear document.uri)

def take (live : Live) (document : Document) : List Finding × Live :=
  let (findings, table) := refresh live.settings document live.table
  (findings, { live with table := table, seen := (document.uri, document) :: live.seen })

def opening (uri : String) (text : List Char) : Document :=
  { uri := uri, path := Path.ofString uri, text := text }

/-- The document after a change: the one last seen, edited, or a new one. -/
def changing (live : Live) (uri : String) (text : List Char) : Document :=
  match live.seen.lookup uri with
  | some document => document.edit text
  | none => opening uri text

def document? (live : Live) : Event → Option Document
  | .opened uri text => some (opening uri text)
  | .changed uri text => some (live.changing uri text)
  | _ => none

/-- What an event is answered with, if it brings a document, and the state after it. -/
def respond (live : Live) : Event → Option (List Finding) × Live
  | .opened uri text => (live.take (opening uri text)).map some id
  | .changed uri text => (live.take (live.changing uri text)).map some id
  | .closed uri => (none, { live with table := live.table.clear uri })
  | .configured settings => (none, { live with settings := settings })

def step (live : Live) (event : Event) : Live := (live.respond event).2

end Live
end SpiceKit
