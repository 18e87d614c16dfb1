import SpiceKit.Literal.Numeral
import SpiceKit.Text.Lines

/-!
# Cutting a literal into tokens

Blanks and comments separate tokens. Inside brackets lines do not matter; outside, a line end is a
token, and so is a change of indentation. Indentation is measured twice, with tabs of eight columns
and with tabs of one, and must come out the same way.

A scan either reaches the end, or meets a fault, or stops at something that is a fault only for
somebody who wants to read on: an open bracket at the end, say. The difference matters to a reader
that has found a fault of its own and looks whether there is a worse one behind it.
-/

set_option autoImplicit false

namespace SpiceKit
namespace Literal

inductive Ending where
  /-- At the end of the text; the last token says so. -/
  | complete
  /-- At a fault. -/
  | fault (fault : ScanFault)
  /-- At something that keeps a reader from reading on, inside the given bracket and its line. -/
  | halt (fault : ScanFault) (innermost : Option (Char × Nat))
  deriving DecidableEq, Repr

structure Scan where
  tokens : List Token
  ending : Ending
  deriving DecidableEq, Repr

def Scan.cons (token : Token) (scan : Scan) : Scan := { scan with tokens := token :: scan.tokens }

namespace Scanner

def mostBrackets : Nat := 200

def mostIndents : Nat := 100

/-- Where a scanner stands: the text left, the line, whether the line has just begun and has nothing
on it, the indentation of the lines around, and the open brackets with their lines, innermost
first. -/
structure State where
  rest : List Char
  line : Nat := 1
  fresh : Bool := true
  blank : Bool := false
  indents : List (Nat × Nat) := [(0, 0)]
  brackets : List (Char × Nat) := []
  deriving DecidableEq, Repr

def State.at (state : State) (rest : List Char) : State :=
  { state with rest := rest, fresh := false }

def State.token (state : State) (kind : TokenKind) (text : List Char) : Token :=
  ⟨kind, text, state.line, state.brackets.length, false⟩

/-! ## Indentation -/

def tabWidth : Nat := 8

/-- The indentation of a line: its two measures, the text behind it, and how many lines were joined
by backslashes. The first backslash fixes the measures unless it stands at the very start. -/
def measure (column narrow : Nat) (fixed : Nat) (joined : Nat) :
    List Char → Option ((Nat × Nat) × List Char × Nat)
  | ' ' :: cs => measure (column + 1) (narrow + 1) fixed joined cs
  | '\t' :: cs =>
    measure ((column / tabWidth + 1) * tabWidth) (narrow + 1) fixed joined cs
  -- A form feed puts the count back, as it puts back the carriage.
  | '\x0c' :: cs => measure 0 0 fixed joined cs
  | '\\' :: '\n' :: cs =>
    measure column narrow (if fixed = 0 then column else fixed) (joined + 1) cs
  | '\\' :: _ => none
  | cs => some (if fixed = 0 then (column, narrow) else (fixed, fixed), cs, joined)

/-- The indentation levels behind a line with the given measures, and the tokens for the change. The
two measures of a level have to agree on which line is deeper. -/
def indent (state : State) (column narrow : Nat) :
    Except ScanFault (List (Nat × Nat) × List Token) :=
  match state.indents with
  | [] => .ok ([], [])
  | (last, lastNarrow) :: outer =>
    if column = last then
      if narrow = lastNarrow then .ok (state.indents, []) else .error .mixedIndent
    else if last < column then
      if mostIndents ≤ state.indents.length then .error .deepIndent
      -- Deeper in one measure has to be deeper in the other.
      else if narrow ≤ lastNarrow then .error .mixedIndent
      else .ok ((column, narrow) :: state.indents, [state.token .indent []])
    else
      -- All the levels that lie deeper end here, and one that is left must be met exactly.
      let left := outer.dropWhile fun level => column < level.1
      match left with
      | (level, levelNarrow) :: _ =>
        if level ≠ column then .error .unevenIndent
        else if levelNarrow ≠ narrow then .error .mixedIndent
        else
          let closed := state.indents.length - left.length
          .ok (left, List.replicate closed (state.token .dedent []))
      | [] => .error .unevenIndent

def State.start (state : State) : Except ScanFault (State × List Token) :=
  match measure 0 0 0 0 state.rest with
  | none => .error .continuation
  | some ((column, narrow), rest, joined) =>
    let blank := rest.head?.any fun c => c == '#' || c == '\n'
    let state := { state with
      rest := rest, line := state.line + joined, fresh := false, blank := blank }
    -- Neither an empty line nor one inside brackets has an indentation.
    if blank || state.brackets ≠ [] then .ok (state, [])
    else do
      let (indents, tokens) ← indent state column narrow
      return ({ state with indents := indents }, tokens)

/-! ## Quotations -/

def quotationLetters : List String := ["", "b", "r", "u", "f", "br", "rb", "fr", "rf"]

def isMark (c : Char) : Bool := c == '\'' || c == '"'

/-- The letters of a quotation at the front of a text, its mark, and what is behind the mark.
`afterQuotation` goes on from there. -/
def quotation? (cs : List Char) : Option (List Char × Char × List Char) :=
  let letters := (cs.take 2).takeWhile Char.isAlpha
  match cs.drop letters.length with
  | mark :: rest =>
    if isMark mark && quotationLetters.contains (String.ofList (letters.map Char.toLower)) then
      some (letters, mark, rest)
    else none
  | [] => none

/-- Whether a quotation is empty and has single marks, which could be the first of triple ones. -/
def isBare (quotation : List Char) : Bool := (quotation.dropWhile Char.isAlpha).length == 2

/-- The text behind a quotation in single marks, if it is closed on its line. -/
def afterSingle (mark : Char) : List Char → Option (List Char)
  | [] => none
  | '\\' :: _ :: cs => afterSingle mark cs
  -- A line end is fine behind a backslash, which the case above has taken.
  | c :: cs => if c = mark then some cs else if c = '\n' then none else afterSingle mark cs

/-- The text behind a quotation in triple marks, of which so many of the closing ones are read. -/
def afterTriple (mark : Char) : Nat → List Char → Option (List Char)
  | _, [] => none
  | count, c :: cs =>
    if c = mark then if count = 2 then some cs else afterTriple mark (count + 1) cs
    else if c = '\\' then
      match cs with
      | _ :: cs => afterTriple mark 0 cs
      | [] => none
    -- Only marks in a row count.
    else afterTriple mark 0 cs

/-- The text of a quotation up to the line end at which a scanner gives it up. -/
def givenUp : List Char → List Char
  | [] => []
  | '\\' :: c :: cs => '\\' :: c :: givenUp cs
  | c :: cs => if c = '\n' then [] else c :: givenUp cs

def lineEnds (cs : List Char) : Nat := cs.count '\n'

/-- The text behind a quotation, from behind its first mark on, or the line on which it is found to
be open, counted from its first. -/
def afterQuotation (mark : Char) (cs : List Char) : Except (Bool × Nat) (List Char) :=
  if [mark, mark].isPrefixOf cs then
    match afterTriple mark 0 (cs.drop 2) with
    | some rest => .ok rest
    | none => .error (true, lineEnds cs)
  else
    match afterSingle mark cs with
    | some rest => .ok rest
    | none => .error (false, lineEnds (givenUp cs))

/-! ## Signs -/

def longSigns : List String :=
  ["**=", "//=", "<<=", ">>=", "...", "!=", "%=", "&=", "**", "*=", "+=", "-=", "->", "//", "/=",
    ":=", "<<", "<=", "<>", "==", ">=", ">>", "@=", "^=", "|="]

def sign (cs : List Char) : List Char :=
  match longSigns.find? fun sign => sign.toList.isPrefixOf cs with
  | some sign => sign.toList
  | none => cs.take 1

def partner? : Char → Option Char
  | ')' => some '('
  | ']' => some '['
  | '}' => some '{'
  | _ => none

def brackets (state : State) (sign : List Char) : Except ScanFault (List (Char × Nat)) :=
  match sign with
  | [c] =>
    if c = '(' ∨ c = '[' ∨ c = '{' then
      if mostBrackets ≤ state.brackets.length then .error .manyBrackets
      else .ok ((c, state.line) :: state.brackets)
    else
      match partner? c, state.brackets with
      | none, open' => .ok open'
      | some _, [] => .error (.unopened c)
      | some opening, (found, line) :: outer =>
        if found = opening then .ok outer
        else .error (.mismatched c found (if line = state.line then none else some line))
  | _ => .ok state.brackets

/-! ## Tokens -/

def wrongInName? (name : List Char) : Option Char :=
  match name with
  | [] => none
  | c :: cs =>
    if !Text.startsIdentifier c then some c
    else cs.find? fun c => !Text.continuesIdentifier c

/-- Whether the end of the whole text is seen by somebody who looks for the end of a token that has
the given text before the given rest. -/
def seesEnd (kind : TokenKind) (text rest : List Char) : Bool :=
  match kind with
  | .name => rest.isEmpty
  | .number => rest.isEmpty || Numeral.wordsBehind.contains (String.ofList rest)
  | .quotation => rest.isEmpty && isBare text
  | .sign => (rest.isEmpty && text.length < 3) || (text == ['.'] && rest == ['.'])
  | _ => false

/-- A token with the given text at the front of what is left in a state, and the state behind it. -/
def State.take (state : State) (kind : TokenKind) (text : List Char) : Token × State :=
  let rest := state.rest.drop text.length
  ({ state.token kind text with sawEnd := seesEnd kind text rest }, state.at rest)

/-- The token at the front of a text that starts with neither a blank nor a line end, and the state
behind it. -/
def tokenAt (state : State) : Except ScanFault (Token × State) :=
  let cs := state.rest
  let upTo (rest : List Char) : List Char := cs.take (cs.length - rest.length)
  match quotation? cs with
  | some (_, mark, rest) =>
    match afterQuotation mark rest with
    | .ok rest' =>
      let (token, next) := state.take .quotation (upTo rest')
      .ok (token, { next with line := state.line + lineEnds token.text })
    | .error (triple, ends) => .error (.openQuotation triple (state.line + ends))
  | none =>
    let first := cs.headD ' '
    if first.isDigit || (first == '.' && (cs.drop 1).head?.any Char.isDigit) then
      match if first = '.' then Numeral.afterPoint (cs.drop 1) else Numeral.rest cs with
      | .ok rest => .ok (state.take .number (upTo rest))
      | .error fault => .error fault
    else if Numeral.inName first then
      let name := cs.takeWhile Numeral.inName
      match wrongInName? name with
      | some c => .error (.character c)
      | none => .ok (state.take .name name)
    else
      let text := sign cs
      match brackets state text with
      | .error fault => .error fault
      | .ok open' =>
        if text.length = 1 ∧ ¬ Text.isPrintable first then .error (.character first)
        else
          .ok (State.take { state with brackets := open' } .sign text)

def isBlank (c : Char) : Bool := c == ' ' || c == '\t' || c == '\x0c'

/-- The scan from a state that is not at the start of a line. Each step takes at least one
character, so a text of `fuel` characters is scanned to its end. -/
def scanFrom : Nat → State → Scan
  | 0, state => ⟨[state.token .finish []], .complete⟩
  | fuel + 1, state =>
    match if state.fresh then state.start else .ok (state, []) with
    | .error fault => ⟨[], .halt fault state.brackets.head?⟩
    | .ok (state, tokens) =>
      let text := state.rest.dropWhile isBlank
      -- A comment goes up to the line end, which is a token of its own.
      let text := if text.head? = some '#' then text.dropWhile (· ≠ '\n') else text
      let scan : Scan := match text with
        | [] =>
          match state.brackets with
          | [] => ⟨[state.token .finish []], .complete⟩
          | (opening, line) :: _ => ⟨[], .halt (.unclosed opening) (some (opening, line))⟩
        | '\n' :: rest =>
          let next := { state with rest := rest, line := state.line + 1, fresh := true }
          if state.blank || state.brackets ≠ [] then scanFrom fuel next
          else Scan.cons (state.token .newline []) (scanFrom fuel next)
        | '\\' :: '\n' :: rest =>
          scanFrom fuel { state with rest := rest, line := state.line + 1 }
        | '\\' :: _ => ⟨[], .halt .continuation state.brackets.head?⟩
        | text =>
          match tokenAt { state with rest := text, blank := false } with
          | .error fault => ⟨[], .fault fault⟩
          | .ok (token, next) => Scan.cons token (scanFrom fuel next)
      { scan with tokens := tokens ++ scan.tokens }

end Scanner

def scan (text : List Char) : Scan :=
  Scanner.scanFrom (text.length + 1) { rest := text }

end Literal
end SpiceKit
