import SpiceKit.Declaration
import SpiceKit.Finding
import SpiceKit.Redefinition

/-!
# The analysis of a document

Everything that can be said about a document without running it.

`Source.analyze` puts together three readings of one text, which know nothing of each other: the
declarations (`Source.declarations`), the redefined built-ins (`Source.redefinitions`, with
`Vocabulary.builtins` for the reserved names) and the findings (`Source.findings`). An `Analysis`
holds no text, so the places in it are to be read against the source it was made from.
-/

set_option autoImplicit false

namespace SpiceKit

/-- The declarations, redefinitions and findings of a document. `Source.analyze` computes all three
from the text alone; nothing is kept between two analyses. -/
structure Analysis where
  declarations : List Declaration
  redefinitions : List Redefinition
  findings : List Finding
  deriving DecidableEq, Repr

def Source.analyze (source : Source) : Analysis :=
  { declarations := source.declarations
    redefinitions := source.redefinitions Vocabulary.builtins
    findings := source.findings }

end SpiceKit
