import SpiceKit.Literal.Quotation

/-!
# Templates

A template is a text with fields in braces; two braces side by side are one brace of the text. A
field holds an expression, an equals sign if the expression itself is to be shown, a conversion
behind an exclamation mark, and a format behind a colon, which may have fields of its own, but no
deeper.

An expression ends at the first of these signs, or at the closing brace, that stands in no brackets
and in no quotation, and is no part of a comparison.
-/

set_option autoImplicit false

namespace SpiceKit
namespace Literal
namespace Template

abbrev Step (α : Type) : Type := Except SyntaxFault α

inductive Stop where
  /-- At a brace or at the end, from which on the rest goes. -/
  | edge (rest : List Char)
  /-- Behind two braces. -/
  | doubled (rest : List Char)
  /-- At a closing brace that closes nothing. -/
  | unopened
  deriving DecidableEq, Repr

def push (c : Char) (found : List Char × Stop) : List Char × Stop := (c :: found.1, found.2)

/-- The text before the next field, and where it ends. Inside a format, braces are not doubled and a
closing one ends it. Each step takes a character; `fuel` is their number. -/
def literal (raw inFormat : Bool) : Nat → List Char → List Char × Stop
  | 0, cs => ([], .edge cs)
  | _, [] => ([], .edge [])
  | fuel + 1, c :: cs =>
    let brace (before : List Char) (c : Char) (cs : List Char) : List Char × Stop :=
      if c = '{' ∨ c = '}' then
        if inFormat then (before, .edge (c :: cs))
        else if cs.head? = some c then (before ++ [c], .doubled (cs.drop 1))
        else if c = '}' then (before, .unopened)
        else (before, .edge (c :: cs))
      else
        let (text, stop) := literal raw inFormat fuel cs
        (before ++ c :: text, stop)
    if raw ∨ c ≠ '\\' then brace [] c cs
    else
      match cs with
      | [] => ([c], .edge [])
      | 'N' :: '{' :: rest =>
        let name := rest.takeWhile (· ≠ '}')
        let (text, stop) := literal raw inFormat fuel (rest.drop (name.length + 1))
        ('\\' :: 'N' :: '{' :: (rest.take (name.length + 1) ++ text), stop)
      | 'N' :: rest =>
        let (text, stop) := literal raw inFormat fuel (rest.drop 1)
        ('\\' :: 'N' :: (rest.take 1 ++ text), stop)
      | d :: rest => brace [c] d rest

/-- Where the reader of an expression stands: in a quotation with its mark, single or triple, and in
which brackets, innermost first. -/
structure State where
  mark : Option (Char × Bool) := none
  brackets : List Char := []
  deriving DecidableEq, Repr

/-- The expression at the front of a field, and the rest, which starts with the sign that ends the
expression. -/
def expression (state : State) : Nat → List Char → Except Complaint (List Char × List Char)
  | 0, _ => .error .fieldOpen
  | _, [] =>
    if state.mark.isSome then .error .fieldQuotation
    else match state.brackets with
      | opening :: _ => .error (.fieldUnmatched opening)
      | [] => .error .fieldOpen
  | fuel + 1, c :: cs =>
    let go (state : State) (count : Nat) : Except Complaint (List Char × List Char) := do
      let (text, rest) ← expression state fuel ((c :: cs).drop count)
      return ((c :: cs).take count ++ text, rest)
    if c = '\\' then .error .fieldBackslash
    else
      let triple := [c, c].isPrefixOf cs
      match state.mark with
      | some (mark, isTriple) =>
        if c ≠ mark then go state 1
        else if isTriple then
          if triple then go { state with mark := none } 3 else go state 1
        else go { state with mark := none } 1
      | none =>
        if Scanner.isMark c then
          go { state with mark := some (c, triple) } (if triple then 3 else 1)
        else if c = '[' ∨ c = '{' ∨ c = '(' then
          if Scanner.mostBrackets ≤ state.brackets.length then .error .fieldBrackets
          else go { state with brackets := c :: state.brackets } 1
        else if c = '#' then .error .fieldComment
        else if state.brackets = [] ∧ ['!', ':', '}', '=', '<', '>'].contains c then
          if cs.head? = some '=' ∧ ['!', '=', '<', '>'].contains c then go state 2
          else if c = '<' ∨ c = '>' then go state 1
          else .ok ([], c :: cs)
        else
          match Scanner.partner? c, state.brackets with
          | none, _ => go state 1
          | some _, [] => .error (.fieldUnmatched c)
          | some opening, found :: outer =>
            if found = opening then go { state with brackets := outer } 1
            else .error (.fieldMismatched c found)

def isSpace (c : Char) : Bool := c == ' ' || ('\t' ≤ c && c ≤ '\r')

def mostFields : Nat := 2

/-- What a template needs to be read: whether it stands in a field itself, whether it is raw, and
how an expression is read. -/
structure Context where
  inField : Bool
  raw : Bool
  nested : List Char → Step Unit

def Context.refuse {α : Type} (context : Context) (complaint : Complaint) : Step α :=
  .error (.complaint context.inField complaint)

def Context.readExpression (context : Context) (text : List Char) (sign : Char) : Step Unit :=
  if text.all fun c => c == ' ' || c == '\t' || c == '\n' || c == '\x0c' then
    context.refuse (if sign = '}' then .fieldEmpty else .fieldEmptyBefore sign)
  else context.nested ('(' :: (text ++ [')']))

def Context.afterEquals (context : Context) (cs : List Char) : Step (List Char) :=
  match cs with
  | '=' :: cs =>
    match cs.dropWhile isSpace with
    | [] => context.refuse .fieldOpen
    | rest => .ok rest
  | cs => .ok cs

def Context.afterConversion (context : Context) (cs : List Char) : Step (List Char) :=
  match cs with
  | ['!'] => context.refuse .fieldOpen
  | '!' :: c :: cs =>
    if c = 's' ∨ c = 'r' ∨ c = 'a' then .ok cs else context.refuse .fieldConversion
  | cs => .ok cs

/-- Reads a template, or the format of a field, from between two fields on. A template is read to
its end, a format up to the brace that closes its field. Each step takes a character; `fuel` is
their number, with as many again for the formats in it. -/
def Context.readFrom (context : Context) (level : Nat) : Nat → List Char → Step (List Char)
  | 0, _ => context.refuse .fieldOpen
  | fuel + 1, cs => do
    let (text, stop) := literal context.raw (level ≠ 0) (cs.length + 1) cs
    if stop = .unopened then context.refuse .fieldUnopened
    match Quotation.wrongText? context.raw text with
    | some complaint => context.refuse complaint
    | none => pure ()
    match stop with
    | .unopened => context.refuse .fieldUnopened
    | .doubled rest => context.readFrom level fuel rest
    | .edge ('{' :: cs) =>
      if mostFields ≤ level then context.refuse .fieldsDeep
      match expression {} (cs.length + 1) cs with
      | .error complaint => context.refuse complaint
      | .ok (text, rest) =>
        context.readExpression text (rest.headD '}')
        let rest ← context.afterConversion (← context.afterEquals rest)
        let rest ← match rest with
          | [':'] => context.refuse .fieldOpen
          | ':' :: rest => context.readFrom (level + 1) fuel rest
          | rest => pure rest
        match rest with
        | '}' :: rest => context.readFrom level fuel rest
        | _ => context.refuse .fieldOpen
    | .edge rest => if level ≠ 0 ∧ rest = [] then context.refuse .fieldOpen else return rest

def Context.read (context : Context) (content : List Char) : Step Unit := do
  let _ ← context.readFrom 0 (2 * content.length + 2) content

end Template

namespace Quotation

/-- Reads quotations side by side, the first of which has been read to the kind of bytes or not. -/
def readAll (inField : Bool) (nested : List Char → Except SyntaxFault Unit) (bytes : Option Bool) :
    List Quotation → Except SyntaxFault Unit
  | [] => .ok ()
  | quotation :: rest => do
    if !quotation.template then
      match quotation.wrong? with
      | some complaint => throw (.complaint inField complaint)
      | none => pure ()
    if bytes.any (· ≠ quotation.bytes) then throw (.complaint inField .mixedQuotations)
    if quotation.template then
      Template.Context.read ⟨inField, quotation.raw, nested⟩ quotation.content
    readAll inField nested (some quotation.bytes) rest

def judge (inField : Bool) (nested : List Char → Except SyntaxFault Unit) (tokens : List Token) :
    Except SyntaxFault Kind := do
  let quotations := tokens.map ofToken
  readAll inField nested none quotations
  return if quotations.any (·.template) then .template
    else if quotations.any (·.bytes) then .bytes
    else .text

end Quotation
end Literal
end SpiceKit
