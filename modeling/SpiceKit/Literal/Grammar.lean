import SpiceKit.Literal.Complaint
import SpiceKit.Literal.Tree

/-!
# The grammar of a literal

The grammar is data: each rule has a list of alternatives, of which the first that fits is taken,
and an alternative is a sequence of patterns with what becomes of it. There is no way back from an
alternative once it has fitted, and none to another one behind a `cut`.

Beside its proper forms a rule may list its *wrong* forms. They are tried only when a text has been
found not to be in the grammar, in a second reading, and say what is wrong with it.

Square brackets do not occur: the literals read here stand in square brackets themselves.
-/

set_option autoImplicit false

namespace SpiceKit
namespace Literal

/-- The rules of the grammar. Those whose name starts with `wrong` describe mistakes; `Rule.body`
gives the alternatives of each, and `readRule` follows them. -/
inductive Rule where
  | whole
  | field
  | expressions
  | expression
  | plainExpression
  | yielding
  | starExpressions
  | starExpression
  | starNamedList
  | starNamed
  | assignment
  | named
  | disjunction
  | conjunction
  | inversion
  | comparison
  | related
  | bitOr
  | bitXor
  | bitAnd
  | shift
  | sum
  | term
  | factor
  | power
  | awaiting
  | primary
  | atom
  | quotations
  | group
  | tuple
  | set
  | dictionary
  | pairs
  | pairOrSpread
  | pair
  | generator
  | setEach
  | dictionaryEach
  | clauses
  | clause
  | targets
  | target
  | targetAtom
  | starAtom
  | targetList
  | targetPrimary
  | targetFollows
  | arguments
  | argumentList
  | positional
  | keywordList
  | starred
  | keywordOrStarred
  | keywordOrDoubleStarred
  | function
  | parameters
  | parameterList
  | slashPlain
  | slashDefault
  | starParameters
  | doubleStarParameter
  | plainParameter
  | defaultParameter
  | anyParameter
  | default
  | wrongExpression
  | wrongCall
  | wrongNamed
  | wrongGroup
  | wrongEach
  | wrongDictionaryEach
  | wrongPairs
  | wrongPair
  | wrongTarget
  | wrongArguments
  | wrongKeyword
  | wrongParameters
  | wrongDefaults
  | wrongStar
  | wrongDoubleStar
  | wrongDefault
  deriving DecidableEq, Repr

inductive Pattern where
  /-- A sign or keyword. -/
  | word (text : String)
  | identifier
  /-- An identifier that starts a statement in some places. -/
  | softKeyword
  | number
  | quotation
  | newline
  | finish
  | rule (rule : Rule)
  | oneOf (choices : List (List Pattern))
  | optional (patterns : List Pattern)
  | many (patterns : List Pattern)
  | some (patterns : List Pattern)
  /-- At least one, with commas between them. -/
  | listed (patterns : List Pattern)
  | ahead (patterns : List Pattern)
  | notAhead (patterns : List Pattern)
  /-- From here on the alternative is the only one. -/
  | cut

instance : Coe String Pattern := ⟨.word⟩
instance : Coe Rule Pattern := ⟨.rule⟩

abbrev Forest : Type := List Tree

inductive Verdict where
  | accept (forest : Forest)
  /-- It is taken for a failure, and no other alternative is tried. -/
  | decline
  | refuse (complaint : Complaint)
  /-- Its quotations have yet to be understood. -/
  | quote (forest : Forest)

/-- An alternative of a rule: its patterns, what becomes of what was read for each of them and of
the number of brackets that are then open, and whether it is a wrong form. `plain`, `make`, `refuse`
and `wrong` build the common ones. -/
structure Alternative where
  patterns : List Pattern
  verdict : List Forest → Nat → Verdict
  isWrong : Bool := false

/-- The body of a rule: alternatives, or a chain of links behind a start, which grows to the right.
A rule that refers to itself at its left end is written as a chain. -/
inductive Body where
  | choice (alternatives : List Alternative)
  | chain (start : List Pattern) (links : List (List Pattern × Kind))

namespace Grammar

def plain (patterns : List Pattern) : Alternative :=
  ⟨patterns, fun forests _ => .accept forests.flatten, false⟩

def make (kind : Kind) (patterns : List Pattern) : Alternative :=
  ⟨patterns, fun forests _ => .accept [.node kind forests.flatten], false⟩

def refuse (complaint : Complaint) (patterns : List Pattern) : Alternative :=
  ⟨patterns, fun _ _ => .refuse complaint, false⟩

/-- An alternative that is refused with a complaint about the first tree read for one of its
patterns. -/
def refuseTree (index : Nat) (complaint : String → Complaint) (patterns : List Pattern) :
    Alternative :=
  ⟨patterns, fun forests _ =>
    match (forests.getD index []).head? with
    | some tree => .refuse (complaint tree.description)
    | none => .decline, false⟩

def wrong (rule : Rule) : Alternative := { plain [rule] with isWrong := true }

def statements : List String := ["print", "exec"]

def statement? (forest : Forest) : Option String :=
  forest.head?.bind fun tree => statements.find? fun name => tree.isName name

/-- Two expressions side by side. Inside brackets a comma is missing between them; outside of all,
or where the first starts with one of the `statements`, the alternative declines. -/
def sideBySide (forests : List Forest) (depth : Nat) : Verdict :=
  if (statement? (forests.getD 1 [])).isSome || depth = 0 then .decline
  else .refuse .commaMissing

def statementCall (forests : List Forest) (_ : Nat) : Verdict :=
  match statement? (forests.getD 0 []) with
  | some name => .refuse (.parenthesesMissing name)
  | none => .decline

def wrongVariable (forests : List Forest) (_ : Nat) : Verdict :=
  match Tree.anyNotAssignable? (forests.getD 2 []) with
  | some tree => .refuse (.assignmentTo tree.description)
  | none => .decline

def isNamedArgument : Tree → Bool
  | .node .keyword _ => true
  | .node .doubleStarred _ => true
  | _ => false

def looseGenerator (forests : List Forest) (_ : Nat) : Verdict :=
  if ((forests.getD 0 []).filter fun tree => !isNamedArgument tree).length ≤ 1 then .decline
  else .refuse .bareGenerator

def lateArguments (forests : List Forest) (_ : Nat) : Verdict :=
  .refuse (.positionalBehind ((forests.getD 0 []).any fun tree =>
    match tree with
    | .node .doubleStarred _ => true
    | _ => false))

end Grammar

open Grammar

def Rule.body : Rule → Body
  | .whole => .choice [plain [.rule .expressions, .many [.newline], .finish]]
  | .field => .choice [plain [.rule .starExpressions]]
  | .expressions => .choice [
      make .tuple [.rule .expression, .some [",", .rule .expression], .optional [","]],
      make .tuple [.rule .expression, ","],
      plain [.rule .expression]]
  | .expression => .choice [
      wrong .wrongExpression,
      wrong .wrongCall,
      make .conditional
        [.rule .disjunction, "if", .rule .disjunction, "else", .rule .expression],
      plain [.rule .disjunction],
      plain [.rule .function]]
  | .plainExpression => .choice [
      make .conditional
        [.rule .disjunction, "if", .rule .disjunction, "else", .rule .expression],
      plain [.rule .disjunction],
      plain [.rule .function]]
  | .yielding => .choice [
      make .yielded ["yield", "from", .rule .expression],
      make .yielded ["yield", .optional [.rule .starExpressions]]]
  | .starExpressions => .choice [
      make .tuple [.rule .starExpression, .some [",", .rule .starExpression], .optional [","]],
      make .tuple [.rule .starExpression, ","],
      plain [.rule .starExpression]]
  | .starExpression => .choice [
      make .starred ["*", .rule .bitOr],
      plain [.rule .expression]]
  | .starNamedList => .choice [plain [.listed [.rule .starNamed], .optional [","]]]
  | .starNamed => .choice [
      make .starred ["*", .rule .bitOr],
      plain [.rule .named]]
  | .assignment => .choice [make .named [.identifier, ":=", .cut, .rule .expression]]
  | .named => .choice [
      plain [.rule .assignment],
      wrong .wrongNamed,
      plain [.rule .expression, .notAhead [":="]]]
  | .disjunction => .choice [
      make .operation [.rule .conjunction, .some ["or", .rule .conjunction]],
      plain [.rule .conjunction]]
  | .conjunction => .choice [
      make .operation [.rule .inversion, .some ["and", .rule .inversion]],
      plain [.rule .inversion]]
  | .inversion => .choice [
      make .operation ["not", .rule .inversion],
      plain [.rule .comparison]]
  | .comparison => .choice [
      make .comparison [.rule .bitOr, .some [.rule .related]],
      plain [.rule .bitOr]]
  | .related => .choice [
      make .relation ["==", .rule .bitOr],
      make .relation ["!=", .rule .bitOr],
      make .relation ["<=", .rule .bitOr],
      make .relation ["<", .rule .bitOr],
      make .relation [">=", .rule .bitOr],
      make .relation [">", .rule .bitOr],
      make .relation ["not", "in", .rule .bitOr],
      make .membership ["in", .rule .bitOr],
      make .relation ["is", "not", .rule .bitOr],
      make .relation ["is", .rule .bitOr]]
  | .bitOr => .chain [.rule .bitXor] [(["|", .rule .bitXor], .operation)]
  | .bitXor => .chain [.rule .bitAnd] [(["^", .rule .bitAnd], .operation)]
  | .bitAnd => .chain [.rule .shift] [(["&", .rule .shift], .operation)]
  | .shift => .chain [.rule .sum] [
      (["<<", .rule .sum], .operation),
      ([">>", .rule .sum], .operation)]
  | .sum => .chain [.rule .term] [
      (["+", .rule .term], .sum),
      (["-", .rule .term], .difference)]
  | .term => .chain [.rule .factor] [
      (["*", .rule .factor], .operation),
      (["/", .rule .factor], .operation),
      (["//", .rule .factor], .operation),
      (["%", .rule .factor], .operation),
      (["@", .rule .factor], .operation)]
  | .factor => .choice [
      make .positive ["+", .rule .factor],
      make .negative ["-", .rule .factor],
      make .operation ["~", .rule .factor],
      plain [.rule .power]]
  | .power => .choice [
      make .operation [.rule .awaiting, "**", .rule .factor],
      plain [.rule .awaiting]]
  | .awaiting => .choice [
      make .awaited ["await", .rule .primary],
      plain [.rule .primary]]
  | .primary => .chain [.rule .atom] [
      ([".", .identifier], .member),
      ([.rule .generator], .call),
      (["(", .optional [.rule .arguments], ")"], .call)]
  | .atom => .choice [
      plain [.identifier],
      make .yes ["True"],
      make .no ["False"],
      make .nothing ["None"],
      plain [.ahead [.quotation], .rule .quotations],
      plain [.number],
      plain [.ahead ["("], .oneOf [[.rule .tuple], [.rule .group], [.rule .generator]]],
      plain [.ahead ["\x7b"], .oneOf [[.rule .dictionary], [.rule .set], [.rule .dictionaryEach],
        [.rule .setEach]]],
      make .ellipsis ["..."]]
  | .quotations => .choice [⟨[.some [.quotation]], fun forests _ => .quote forests.flatten, false⟩]
  | .group => .choice [
      plain ["(", .oneOf [[.rule .yielding], [.rule .named]], ")"],
      wrong .wrongGroup]
  | .tuple => .choice [
      make .tuple ["(", .optional [.rule .starNamed, ",", .optional [.rule .starNamedList]], ")"]]
  | .set => .choice [make .set ["\x7b", .rule .starNamedList, "\x7d"]]
  | .dictionary => .choice [
      make .dictionary ["\x7b", .optional [.rule .pairs], "\x7d"],
      plain ["\x7b", .rule .wrongPairs, "\x7d"]]
  | .pairs => .choice [plain [.listed [.rule .pairOrSpread], .optional [","]]]
  | .pairOrSpread => .choice [
      make .doubleStarred ["**", .rule .bitOr],
      plain [.rule .pair]]
  | .pair => .choice [make .pair [.rule .expression, ":", .rule .expression]]
  | .generator => .choice [
      make .generator ["(", .oneOf [[.rule .assignment], [.rule .expression, .notAhead [":="]]],
        .rule .clauses, ")"],
      wrong .wrongEach]
  | .setEach => .choice [
      make .setEach ["\x7b", .rule .named, .rule .clauses, "\x7d"],
      wrong .wrongEach]
  | .dictionaryEach => .choice [
      make .dictionaryEach ["\x7b", .rule .pair, .rule .clauses, "\x7d"],
      wrong .wrongDictionaryEach]
  | .clauses => .choice [plain [.some [.rule .clause]]]
  | .clause => .choice [
      make .clause ["async", "for", .rule .targets, "in", .cut, .rule .disjunction,
        .many ["if", .rule .disjunction]],
      make .clause ["for", .rule .targets, "in", .cut, .rule .disjunction,
        .many ["if", .rule .disjunction]],
      wrong .wrongTarget]
  | .targets => .choice [
      plain [.rule .target, .notAhead [","]],
      make .tuple [.rule .target, .many [",", .rule .target], .optional [","]]]
  | .target => .choice [
      make .starred ["*", .notAhead ["*"], .rule .target],
      plain [.rule .targetAtom]]
  | .targetAtom => .choice [
      make .member [.rule .targetPrimary, ".", .identifier, .notAhead [.rule .targetFollows]],
      plain [.rule .starAtom]]
  | .starAtom => .choice [
      plain [.identifier],
      plain ["(", .rule .targetAtom, ")"],
      make .tuple ["(", .optional [.rule .targetList], ")"]]
  | .targetList => .choice [
      plain [.rule .target, .some [",", .rule .target], .optional [","]],
      plain [.rule .target, ","]]
  | .targetPrimary => .chain [.rule .atom, .ahead [.rule .targetFollows]] [
      ([".", .identifier, .ahead [.rule .targetFollows]], .member),
      ([.rule .generator, .ahead [.rule .targetFollows]], .call),
      (["(", .optional [.rule .arguments], ")", .ahead [.rule .targetFollows]], .call)]
  | .targetFollows => .choice [plain ["("], plain ["."]]
  | .arguments => .choice [
      plain [.rule .argumentList, .optional [","], .ahead [")"]],
      wrong .wrongArguments]
  | .argumentList => .choice [
      plain [.listed [.rule .positional], .optional [",", .rule .keywordList]],
      plain [.rule .keywordList]]
  | .positional => .choice [
      plain [.rule .starred],
      plain [.rule .assignment, .notAhead ["="]],
      plain [.rule .expression, .notAhead [":="], .notAhead ["="]]]
  | .keywordList => .choice [
      plain [.listed [.rule .keywordOrStarred], ",", .listed [.rule .keywordOrDoubleStarred]],
      plain [.listed [.rule .keywordOrStarred]],
      plain [.listed [.rule .keywordOrDoubleStarred]]]
  | .starred => .choice [
      make .starred ["*", .rule .expression],
      refuse .starMeaningless ["*"]]
  | .keywordOrStarred => .choice [
      wrong .wrongKeyword,
      make .keyword [.identifier, "=", .rule .expression],
      plain [.rule .starred]]
  | .keywordOrDoubleStarred => .choice [
      wrong .wrongKeyword,
      make .keyword [.identifier, "=", .rule .expression],
      make .doubleStarred ["**", .rule .expression]]
  | .function => .choice [
      make .function ["lambda", .optional [.rule .parameters], ":", .rule .expression]]
  | .parameters => .choice [
      wrong .wrongParameters,
      plain [.rule .parameterList]]
  | .parameterList => .choice [
      plain [.rule .slashPlain, .many [.rule .plainParameter], .many [.rule .defaultParameter],
        .optional [.rule .starParameters]],
      plain [.rule .slashDefault, .many [.rule .defaultParameter],
        .optional [.rule .starParameters]],
      plain [.some [.rule .plainParameter], .many [.rule .defaultParameter],
        .optional [.rule .starParameters]],
      plain [.some [.rule .defaultParameter], .optional [.rule .starParameters]],
      plain [.rule .starParameters]]
  | .slashPlain => .choice [
      plain [.some [.rule .plainParameter], "/", ","],
      plain [.some [.rule .plainParameter], "/", .ahead [":"]]]
  | .slashDefault => .choice [
      plain [.many [.rule .plainParameter], .some [.rule .defaultParameter], "/", ","],
      plain [.many [.rule .plainParameter], .some [.rule .defaultParameter], "/", .ahead [":"]]]
  | .starParameters => .choice [
      wrong .wrongStar,
      plain ["*", .rule .plainParameter, .many [.rule .anyParameter],
        .optional [.rule .doubleStarParameter]],
      plain ["*", ",", .some [.rule .anyParameter], .optional [.rule .doubleStarParameter]],
      plain [.rule .doubleStarParameter]]
  | .doubleStarParameter => .choice [
      wrong .wrongDoubleStar,
      plain ["**", .rule .plainParameter]]
  | .plainParameter => .choice [
      plain [.identifier, ","],
      plain [.identifier, .ahead [":"]]]
  | .defaultParameter => .choice [
      plain [.identifier, .rule .default, ","],
      plain [.identifier, .rule .default, .ahead [":"]]]
  | .anyParameter => .choice [
      plain [.identifier, .optional [.rule .default], ","],
      plain [.identifier, .optional [.rule .default], .ahead [":"]]]
  | .default => .choice [
      plain ["=", .rule .expression],
      wrong .wrongDefault]
  | .wrongExpression => .choice [
      ⟨[.notAhead [.oneOf [[.identifier, .quotation], [.softKeyword]]], .rule .disjunction,
        .rule .plainExpression], sideBySide, false⟩,
      refuse .elseMissing [.rule .disjunction, "if", .rule .disjunction,
        .notAhead [.oneOf [["else"], [":"]]]]]
  | .wrongCall => .choice [
      ⟨[.identifier, .notAhead ["("], .rule .starExpressions], statementCall, false⟩]
  | .wrongNamed => .choice [
      refuseTree 0 .namingOf [.rule .expression, ":=", .rule .expression],
      refuse .equalityMeant
        [.identifier, "=", .rule .bitOr, .notAhead [.oneOf [["="], [":="]]]],
      refuseTree 1 .assignmentHere
        [.notAhead [.oneOf [[.rule .tuple], [.rule .generator], ["True"], ["None"], ["False"]]],
          .rule .bitOr, "=", .rule .bitOr, .notAhead [.oneOf [["="], [":="]]]]]
  | .wrongGroup => .choice [
      refuse .starredAlone ["(", .rule .starred, ")"],
      refuse .doubleStarredAlone ["(", "**", .rule .expression, ")"]]
  | .wrongEach => .choice [
      refuse .starredTarget [.oneOf [["("], ["\x7b"]], .rule .starred, .rule .clauses],
      refuse .bareTarget ["\x7b", .rule .starNamed, ",", .rule .starNamedList, .rule .clauses],
      refuse .bareTarget ["\x7b", .rule .starNamed, ",", .rule .clauses]]
  | .wrongDictionaryEach => .choice [
      refuse .doubleStarredTarget ["\x7b", "**", .rule .bitOr, .rule .clauses, "\x7d"]]
  | .wrongPairs => .choice [
      plain [.listed [.rule .pairOrSpread], ",", .rule .wrongPair],
      refuse .starredValue [.rule .expression, ":", "*", .rule .bitOr],
      refuse .valueMissing [.rule .expression, ":", .ahead [.oneOf [["\x7d"], [","]]]]]
  | .wrongPair => .choice [
      refuse .colonMissing [.rule .expression, .notAhead [":"]],
      refuse .starredValue [.rule .expression, ":", "*", .rule .bitOr],
      refuse .valueMissing [.rule .expression, ":", .ahead [.oneOf [["\x7d"], [","]]]]]
  | .wrongTarget => .choice [
      ⟨[.optional ["async"], "for", .rule .starExpressions], wrongVariable, false⟩]
  | .wrongArguments => .choice [
      refuse .starredBehindDouble [
        .oneOf [[.listed [.rule .positional], ",", .rule .keywordList], [.rule .keywordList]],
        ",", .listed [.rule .starred, .notAhead ["="]]],
      refuse .bareGenerator [.rule .expression, .rule .clauses, ",",
        .optional [.oneOf [[.rule .argumentList], [.rule .expression, .rule .clauses]]]],
      refuse .equalityMeant [.identifier, "=", .rule .expression, .rule .clauses],
      ⟨[.rule .argumentList, .rule .clauses], looseGenerator, false⟩,
      refuse .bareGenerator [.rule .argumentList, ",", .rule .expression, .rule .clauses],
      ⟨[.rule .argumentList, ",", .rule .argumentList], lateArguments, false⟩]
  | .wrongKeyword => .choice [
      refuse (.assignmentTo "True") ["True", "="],
      refuse (.assignmentTo "False") ["False", "="],
      refuse (.assignmentTo "None") ["None", "="],
      refuse .equalityMeant [.identifier, "=", .rule .expression, .rule .clauses],
      refuse .assignmentInArgument
        [.notAhead [.identifier, "="], .rule .expression, "="]]
  | .wrongParameters => .choice [
      refuse .defaultBefore
        [.many [.rule .plainParameter], .rule .wrongDefaults, .rule .plainParameter],
      refuse .parenthesesAround
        [.many [.rule .plainParameter], "(", .listed [.identifier], .optional [","], ")"],
      refuse .slashFirst ["/", ","],
      refuse .slashTwice
        [.oneOf [[.rule .slashPlain], [.rule .slashDefault]], .many [.rule .anyParameter], "/"],
      refuse .slashBehindStar
        [.optional [.oneOf [[.rule .slashPlain], [.rule .slashDefault]]],
          .many [.rule .anyParameter], "*", .oneOf [[","], [.rule .plainParameter]],
          .many [.rule .anyParameter], "/"],
      refuse .slashCommaMissing [.some [.rule .anyParameter], "/", "*"]]
  | .wrongDefaults => .choice [
      plain [.rule .slashDefault],
      plain [.some [.rule .defaultParameter]]]
  | .wrongStar => .choice [
      refuse .starAlone ["*", .oneOf [[":"], [",", .oneOf [[":"], ["**"]]]]],
      refuse .starDefault ["*", .identifier, "="],
      refuse .starTwice
        ["*", .oneOf [[.rule .plainParameter], [","]], .many [.rule .anyParameter], "*",
          .oneOf [[.rule .plainParameter], [","]]]]
  | .wrongDoubleStar => .choice [
      refuse .doubleStarDefault ["**", .identifier, "="],
      refuse .doubleStarNotLast ["**", .identifier, ",", .identifier],
      refuse .doubleStarNotLast
        ["**", .identifier, ",", .oneOf [["*"], ["**"], ["/"]]]]
  | .wrongDefault => .choice [
      refuse .defaultMissing ["=", .ahead [.oneOf [[")"], [","]]]]]

/-- Whether what a rule reads at a token is remembered, so that it is read there only once.
`remember` and `remembered?` keep a table for these rules. -/
def Rule.isRemembered : Rule → Bool
  | .expression | .starExpression | .disjunction | .conjunction | .inversion | .factor
  | .awaiting | .quotations | .arguments | .target | .targetAtom | .wrongNamed
  | .bitOr | .bitXor | .bitAnd | .shift | .sum | .term | .primary | .targetPrimary => true
  | _ => false

end Literal
end SpiceKit
