import SpiceKit.Literal.Grammar
import SpiceKit.Literal.Scanner

/-!
# Reading a literal

Tokens are read by the grammar. What a rule finds at a token is remembered, for rules that are tried
there more than once. A text that is not in the grammar is read a second time with the wrong forms
taken into account; if none of them explains the fault, the text is just unexpected.

A fault of the tokens counts where the reading gets there, and also behind a fault of the grammar.

`fuel` bounds how deep the reading goes down; `fuelFor` is more than any text of that many tokens
needs, since a rule that has not read a token yet leads to itself through no other.
-/

set_option autoImplicit false

namespace SpiceKit
namespace Literal

/-- What a reading works with: the tokens, how they end, and what is made of the quotations side by
side. The last is a parameter because a template holds expressions again. -/
structure Reader where
  tokens : Array Token
  ending : Ending
  inField : Bool
  judge : List Token → Except SyntaxFault Kind

abbrev Found : Type := Forest × Nat

structure Progress where
  reached : Nat := 0
  memory : Array (List (Rule × Option Found)) := #[]

/-- A reading: it may end in a fault, and how far it got is known even then. A fault is weighed
against the tokens behind that place (`weigh`). -/
abbrev Reading (α : Type) : Type := ExceptT SyntaxFault (StateM Progress) α

inductive Sequence where
  | read (forests : List Forest) (place : Nat)
  /-- It does not fit; nor does anything else, if it has passed a cut. -/
  | failed (passedCut : Bool)

namespace Reader

/-- The token at a place. At the end of the tokens a reading ends in their fault. -/
def token (reader : Reader) (place : Nat) : Reading Token := do
  modify fun progress => { progress with reached := max progress.reached (place + 1) }
  match reader.tokens[place]? with
  | some token => return token
  | none =>
    match reader.ending with
    | .fault fault => throw (.scan fault)
    | .halt fault _ => throw (.scan fault)
    | .complete => return ⟨.finish, [], 0, 0, true⟩

/-- What is found at a place if its token passes a test, and what is made of it. -/
def tokenIf (reader : Reader) (place : Nat) (test : Token → Bool) (keep : Bool) :
    Reading (Option Found) := do
  let token ← reader.token place
  if test token then return some (if keep then [.leaf token] else [], place + 1) else return none

def softKeywords : List String := ["_", "case", "match"]

/-- Whether a name is taken for one that starts a statement; the first letters of one do. -/
def isSoftKeyword (name : List Char) : Bool :=
  softKeywords.any fun keyword => name.isPrefixOf keyword.toList

def remembered? (rule : Rule) (place : Nat) : Reading (Option (Option Found)) := do
  return ((← get).memory[place]?).bind fun entries => entries.lookup rule

def remember (rule : Rule) (place : Nat) (found : Option Found) : Reading Unit :=
  modify fun progress =>
    { progress with memory := progress.memory.modify place ((rule, found) :: ·) }

def depthBefore (reader : Reader) (place : Nat) : Nat :=
  match place with
  | 0 => 0
  | place + 1 => (reader.tokens[place]?).elim 0 (·.depth)

def settle (reader : Reader) (place : Nat) : Verdict → Reading (Option Found)
  | .accept forest => return some (forest, place)
  | .decline => return none
  | .refuse complaint => throw (.complaint reader.inField complaint)
  | .quote forest =>
    let tokens := forest.filterMap fun tree =>
      match tree with
      | .leaf token => some token
      | .node _ _ => none
    match reader.judge tokens with
    | .ok kind => return some ([.node kind []], place)
    | .error fault => throw fault

mutual

/-- What a rule finds at a place. With `mistakes` wrong forms count, except below the rule that is
there to do without them. A text is read without them first, and with them only if that fails. -/
def readRule (reader : Reader) : Nat → Bool → Rule → Nat → Reading (Option Found)
  | 0, _, _, _ => return none
  | fuel + 1, mistakes, rule, place => do
    let known ← if rule.isRemembered then remembered? rule place else pure none
    match known with
    | some found => return found
    | none =>
      let found ← match rule.body with
        | .choice alternatives =>
          readChoice reader fuel (mistakes && rule ≠ .plainExpression) alternatives place
        | .chain start links => do
          match ← readSequence reader fuel mistakes false start place with
          | .read forests next => readLinks reader fuel mistakes links (forests.flatten, next)
          | .failed _ => return none
      if rule.isRemembered then remember rule place found
      return found

def readChoice (reader : Reader) : Nat → Bool → List Alternative → Nat → Reading (Option Found)
  | 0, _, _, _ => return none
  | _, _, [], _ => return none
  | fuel + 1, mistakes, alternative :: alternatives, place => do
    if alternative.isWrong && !mistakes then
      readChoice reader fuel mistakes alternatives place
    else
      match ← readSequence reader fuel mistakes false alternative.patterns place with
      | .failed true => return none
      | .failed false => readChoice reader fuel mistakes alternatives place
      | .read forests next =>
        reader.settle next (alternative.verdict forests (reader.depthBefore next))

def readSequence (reader : Reader) :
    Nat → Bool → Bool → List Pattern → Nat → Reading Sequence
  | 0, _, _, _, _ => return .failed false
  | _, _, _, [], place => return .read [] place
  | fuel + 1, mistakes, passedCut, pattern :: patterns, place => do
    match ← readPattern reader fuel mistakes pattern place with
    | none => return .failed passedCut
    | some (forest, next) =>
      let passedCut := passedCut || (match pattern with | .cut => true | _ => false)
      match ← readSequence reader fuel mistakes passedCut patterns next with
      | .read forests last => return .read (forest :: forests) last
      | failed => return failed

def readPattern (reader : Reader) : Nat → Bool → Pattern → Nat → Reading (Option Found)
  | 0, _, _, _ => return none
  | fuel + 1, mistakes, pattern, place =>
    match pattern with
    | .word text => reader.tokenIf place (·.isWord text) false
    | .identifier => reader.tokenIf place (·.isIdentifier) true
    | .softKeyword => reader.tokenIf place (fun token =>
        token.isIdentifier && isSoftKeyword token.text) true
    | .number => reader.tokenIf place (·.kind == .number) true
    | .quotation => reader.tokenIf place (·.kind == .quotation) true
    | .newline => reader.tokenIf place (·.kind == .newline) false
    | .finish => reader.tokenIf place (·.kind == .finish) false
    | .rule rule => readRule reader fuel mistakes rule place
    | .oneOf choices => readOneOf reader fuel mistakes choices place
    | .optional patterns => do
      match ← readSequence reader fuel mistakes false patterns place with
      | .read forests next => return some (forests.flatten, next)
      | .failed _ => return some ([], place)
    | .many patterns => readMany reader fuel mistakes patterns ([], place)
    | .some patterns => do
      match ← readSequence reader fuel mistakes false patterns place with
      | .read forests next => readMany reader fuel mistakes patterns (forests.flatten, next)
      | .failed _ => return none
    | .listed patterns => do
      match ← readSequence reader fuel mistakes false patterns place with
      | .read forests next =>
        readMany reader fuel mistakes (.word "," :: patterns) (forests.flatten, next)
      | .failed _ => return none
    | .ahead patterns => do
      match ← readSequence reader fuel mistakes false patterns place with
      | .read _ _ => return some ([], place)
      | .failed _ => return none
    | .notAhead patterns => do
      match ← readSequence reader fuel mistakes false patterns place with
      | .read _ _ => return none
      | .failed _ => return some ([], place)
    | .cut => return some ([], place)

def readOneOf (reader : Reader) :
    Nat → Bool → List (List Pattern) → Nat → Reading (Option Found)
  | 0, _, _, _ => return none
  | _, _, [], _ => return none
  | fuel + 1, mistakes, choice :: choices, place => do
    match ← readSequence reader fuel mistakes false choice place with
    | .read forests next => return some (forests.flatten, next)
    | .failed _ => readOneOf reader fuel mistakes choices place

/-- What a sequence finds as often as it fits, behind what has been found. -/
def readMany (reader : Reader) :
    Nat → Bool → List Pattern → Found → Reading (Option Found)
  | 0, _, _, found => return some found
  | fuel + 1, mistakes, patterns, (forest, place) => do
    match ← readSequence reader fuel mistakes false patterns place with
    | .read forests next =>
      readMany reader fuel mistakes patterns (forest ++ forests.flatten, next)
    | .failed _ => return some (forest, place)

/-- What links find as often as one of them fits, behind what has been found. -/
def readLinks (reader : Reader) :
    Nat → Bool → List (List Pattern × Kind) → Found → Reading (Option Found)
  | 0, _, _, found => return some found
  | fuel + 1, mistakes, links, found => do
    match ← readLink reader fuel mistakes links found with
    | some longer => readLinks reader fuel mistakes links longer
    | none => return some found

/-- What the first of some links that fits makes of what has been found. -/
def readLink (reader : Reader) :
    Nat → Bool → List (List Pattern × Kind) → Found → Reading (Option Found)
  | 0, _, _, _ => return none
  | _, _, [], _ => return none
  | fuel + 1, mistakes, (patterns, kind) :: links, (forest, place) => do
    match ← readSequence reader fuel mistakes false patterns place with
    | .read forests next => return some ([.node kind (forest ++ forests.flatten)], next)
    | .failed _ => readLink reader fuel mistakes links (forest, place)

end

def fuelFor (count : Nat) : Nat := 1000 * (count + 10)

/-- Reads all tokens by a rule: what is found, and how far the reading got. -/
def attempt (reader : Reader) (mistakes : Bool) (rule : Rule) (reached : Nat) :
    Except SyntaxFault (Option Found) × Nat :=
  let (found, progress) := (readRule reader (fuelFor reader.tokens.size) mistakes rule 0).run.run
    { reached := reached, memory := Array.replicate (reader.tokens.size + 1) [] }
  (found, progress.reached)

/-- The fault of the tokens that outdoes one of the grammar, found when the tokens up to a place had
been seen. An open bracket does if the last of those is on a later line. -/
def worse? (reader : Reader) (reached : Nat) : Option ScanFault :=
  match reader.ending with
  | .fault fault => some fault
  | .halt _ (some (opening, line)) =>
    if line < (reader.tokens[reached - 1]?).elim 0 (·.line) then some (.unclosed opening) else none
  | _ => none

def isLast (reader : Reader) (fault : SyntaxFault) : Bool :=
  match reader.ending with
  | .fault last => fault == .scan last
  | .halt last _ => fault == .scan last
  | .complete => false

/-- A fault found when the tokens up to a place had been seen, unless the tokens are worse. -/
def outdone (reader : Reader) (reached : Nat) (fault : SyntaxFault) : SyntaxFault :=
  match reader.worse? reached with
  | some worse => .scan worse
  | none => fault

/-- Whether the end of the text had been seen when the tokens up to a place had. A field of a
template goes on behind its text. -/
def sawEnd (reader : Reader) (reached : Nat) : Bool :=
  !reader.inField && (reader.tokens[reached - 1]?).any (·.sawEnd)

/-- A fault found when the tokens up to a place had been seen. The tokens behind it matter if there
are any. -/
def weigh (reader : Reader) (reached : Nat) (fault : SyntaxFault) : SyntaxFault :=
  if reader.isLast fault || reader.sawEnd reached then fault else reader.outdone reached fault

/-- The fault of tokens that are not in the grammar and have no known mistake. -/
def unexplained (reader : Reader) (first second : Nat) : SyntaxFault :=
  let kind := (reader.tokens[first - 1]?).map (·.kind)
  if kind = some .indent then .complaint reader.inField .indented
  else if kind = some .dedent then .complaint reader.inField .unindented
  else reader.outdone second (.complaint reader.inField .unexpected)

def read (reader : Reader) (rule : Rule) : Except SyntaxFault (Option Tree) :=
  match reader.attempt false rule 0 with
  | (.error fault, first) => .error (reader.weigh first fault)
  | (.ok (some (forest, _)), _) => .ok forest.head?
  | (.ok none, first) =>
    match reader.attempt true rule first with
    | (.error fault, second) => .error (reader.weigh second fault)
    | (.ok _, second) => .error (reader.unexplained first second)

end Reader
end Literal
end SpiceKit
