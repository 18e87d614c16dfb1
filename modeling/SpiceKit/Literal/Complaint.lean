import SpiceKit.Literal.Token

/-!
# Complaints about a literal

What can be wrong with a literal beyond its tokens: it is not in the grammar, and if a common
mistake explains why, the complaint names it; or a quotation in it cannot be understood.

A template is a quotation with fields, and each field holds an expression of its own. A complaint
about an expression in a field says so.
-/

set_option autoImplicit false

namespace SpiceKit
namespace Literal

inductive EscapeFault where
  | shortByte
  | shortUnit
  | shortPoint
  | noCharacter
  | noName
  | unknownName
  deriving DecidableEq, Repr

def EscapeFault.message : EscapeFault → String
  | .shortByte => "truncated \\xXX escape"
  | .shortUnit => "truncated \\uXXXX escape"
  | .shortPoint => "truncated \\UXXXXXXXX escape"
  | .noCharacter => "illegal Unicode character"
  | .noName => "malformed \\N character escape"
  | .unknownName => "unknown Unicode character name"

inductive Complaint where
  | unexpected
  | indented
  | unindented
  | commaMissing
  | elseMissing
  | parenthesesMissing (name : String)
  | namingOf (what : String)
  | equalityMeant
  | assignmentHere (what : String)
  | assignmentTo (what : String)
  | starredTarget
  | bareTarget
  | doubleStarredTarget
  | starredAlone
  | doubleStarredAlone
  | starMeaningless
  | starredValue
  | valueMissing
  | colonMissing
  | bareGenerator
  | starredBehindDouble
  | positionalBehind (double : Bool)
  | assignmentInArgument
  | defaultMissing
  | defaultBefore
  | parenthesesAround
  | slashFirst
  | slashTwice
  | slashBehindStar
  | slashCommaMissing
  | starAlone
  | starDefault
  | starTwice
  | doubleStarDefault
  | doubleStarNotLast
  | mixedQuotations
  | wideByte
  | escape (start stop : Nat) (fault : EscapeFault)
  | byteEscape (start : Nat)
  | fieldOpen
  | fieldUnopened
  | fieldEmpty
  | fieldEmptyBefore (c : Char)
  | fieldsDeep
  | fieldBackslash
  | fieldComment
  | fieldQuotation
  | fieldBrackets
  | fieldUnmatched (c : Char)
  | fieldMismatched (closing opening : Char)
  | fieldConversion
  deriving DecidableEq, Repr

def Complaint.message : Complaint → String
  | .unexpected => "invalid syntax"
  | .indented => "unexpected indent"
  | .unindented => "unexpected unindent"
  | .commaMissing => "invalid syntax. Perhaps you forgot a comma?"
  | .elseMissing => "expected 'else' after 'if' expression"
  | .parenthesesMissing name =>
    "Missing parentheses in call to '" ++ name ++ "'. Did you mean " ++ name ++ "(...)?"
  | .namingOf what => "cannot use assignment expressions with " ++ what
  | .equalityMeant => "invalid syntax. Maybe you meant '==' or ':=' instead of '='?"
  | .assignmentHere what =>
    "cannot assign to " ++ what ++ " here. Maybe you meant '==' instead of '='?"
  | .assignmentTo what => "cannot assign to " ++ what
  | .starredTarget => "iterable unpacking cannot be used in comprehension"
  | .bareTarget => "did you forget parentheses around the comprehension target?"
  | .doubleStarredTarget => "dict unpacking cannot be used in dict comprehension"
  | .starredAlone => "cannot use starred expression here"
  | .doubleStarredAlone => "cannot use double starred expression here"
  | .starMeaningless => "Invalid star expression"
  | .starredValue => "cannot use a starred expression in a dictionary value"
  | .valueMissing => "expression expected after dictionary key and ':'"
  | .colonMissing => "':' expected after dictionary key"
  | .bareGenerator => "Generator expression must be parenthesized"
  | .starredBehindDouble =>
    "iterable argument unpacking follows keyword argument unpacking"
  | .positionalBehind double =>
    "positional argument follows keyword argument" ++ (if double then " unpacking" else "")
  | .assignmentInArgument =>
    "expression cannot contain assignment, perhaps you meant \"==\"?"
  | .defaultMissing => "expected default value expression"
  | .defaultBefore => "non-default argument follows default argument"
  | .parenthesesAround => "Lambda expression parameters cannot be parenthesized"
  | .slashFirst => "at least one argument must precede /"
  | .slashTwice => "/ may appear only once"
  | .slashBehindStar => "/ must be ahead of *"
  | .slashCommaMissing => "expected comma between / and *"
  | .starAlone => "named arguments must follow bare *"
  | .starDefault => "var-positional argument cannot have default value"
  | .starTwice => "* argument may appear only once"
  | .doubleStarDefault => "var-keyword argument cannot have default value"
  | .doubleStarNotLast => "arguments cannot follow var-keyword argument"
  | .mixedQuotations => "cannot mix bytes and nonbytes literals"
  | .wideByte => "bytes can only contain ASCII literal characters"
  | .escape start stop fault =>
    "(unicode error) 'unicodeescape' codec can't decode bytes in position " ++ toString start ++
      "-" ++ toString (stop - 1) ++ ": " ++ fault.message
  | .byteEscape start => "(value error) invalid \\x escape at position " ++ toString start
  | .fieldOpen => "f-string: expecting '\x7d'"
  | .fieldUnopened => "f-string: single '\x7d' is not allowed"
  | .fieldEmpty => "f-string: empty expression not allowed"
  | .fieldEmptyBefore c =>
    "f-string: expression required before '" ++ String.singleton c ++ "'"
  | .fieldsDeep => "f-string: expressions nested too deeply"
  | .fieldBackslash => "f-string expression part cannot include a backslash"
  | .fieldComment => "f-string expression part cannot include '#'"
  | .fieldQuotation => "f-string: unterminated string"
  | .fieldBrackets => "f-string: too many nested parenthesis"
  | .fieldUnmatched c => "f-string: unmatched '" ++ String.singleton c ++ "'"
  | .fieldMismatched closing opening =>
    "f-string: closing parenthesis '" ++ String.singleton closing ++
      "' does not match opening parenthesis '" ++ String.singleton opening ++ "'"
  | .fieldConversion => "f-string: invalid conversion character: expected 's', 'r', or 'a'"

/-- What is wrong with the text of a literal: its tokens, or what they make up, be it in a field of
a template or not. -/
inductive SyntaxFault where
  | scan (fault : ScanFault)
  | complaint (inField : Bool) (cause : Complaint)
  deriving DecidableEq, Repr

def SyntaxFault.message : SyntaxFault → String
  | .scan fault => fault.message
  | .complaint inField cause => (if inField then "f-string: " else "") ++ cause.message

end Literal
end SpiceKit
