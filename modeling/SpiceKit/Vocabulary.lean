/-!
# The words of Spice

The fixed tables of the language: its keywords, the built-in names that a program should not take
for itself, what ends a statement, and what an editor shows for a keyword. Lists keep the order in
which completion offers them.

`keywords` and `snippets` are for completion alone. Two tables decide something: a definition of one
of the `builtins` is a `Redefinition`, for which consent is asked before the program is run, and a
statement line without one of the `terminators` at its end is a `Finding`. `sourceSuffix` and
`compiledSuffix` tie sources to what they are compiled to.
-/

set_option autoImplicit false

namespace SpiceKit
namespace Vocabulary

def keywords : List String :=
  ["interface", "abstract", "final", "static", "extends", "implements", "def", "class", "if",
    "elif", "else", "for", "while", "return", "import", "from", "as", "with", "try", "except",
    "finally", "raise", "pass", "break", "continue", "True", "False", "None", "and", "or", "not",
    "in", "is", "lambda", "switch", "case", "default"]

/-- The built-in names, which a program should not redefine. Nothing that is proved about
redefinitions looks into the list: it holds for any set of reserved names. -/
def builtins : List String :=
  ["abs", "aiter", "all", "anext", "any", "ascii", "bin", "bool", "breakpoint", "bytearray",
    "bytes", "callable", "chr", "classmethod", "compile", "complex", "delattr", "dict", "dir",
    "divmod", "enumerate", "eval", "exec", "filter", "float", "format", "frozenset", "getattr",
    "globals", "hasattr", "hash", "help", "hex", "id", "input", "int", "isinstance", "issubclass",
    "iter", "len", "list", "locals", "map", "max", "memoryview", "min", "next", "object", "oct",
    "open", "ord", "pow", "print", "property", "range", "repr", "reversed", "round", "set",
    "setattr", "slice", "sorted", "staticmethod", "str", "sum", "super", "tuple", "type", "vars",
    "zip", "__import__"]

def terminators : List Char := [';', ':', '\x7b', '\x7d']

def sourceSuffix : String := ".spc"

def compiledSuffix : String := ".py"

def explain? : String → Option (List String)
  | "interface" => some [
      "**interface** keyword",
      "Declares an interface (Protocol in Python) that defines method signatures",
      "```spice\ninterface Drawable \x7b\n    def draw() -> None;\n\x7d\n```"]
  | "abstract" => some [
      "**abstract** modifier",
      "Marks a class or method as abstract (must be overridden)",
      "```spice\nabstract class Shape \x7b\n    abstract def area() -> float;\n\x7d\n```"]
  | "final" => some [
      "**final** modifier",
      "Prevents a class from being inherited or a method from being overridden",
      "```spice\nfinal class Dog extends Animal \x7b\n" ++
        "    final def bark() -> None \x7b ... \x7d\n\x7d\n```"]
  | "static" => some [
      "**static** modifier",
      "Declares a static method that belongs to the class rather than instances",
      "```spice\nstatic def utility_function() -> None \x7b\n    pass;\n\x7d\n```"]
  | "extends" => some [
      "**extends** keyword",
      "Specifies class inheritance",
      "```spice\nclass Dog extends Animal \x7b ... \x7d\n```"]
  | "implements" => some [
      "**implements** keyword",
      "Specifies that a class implements one or more interfaces",
      "```spice\nclass Circle extends Shape implements Drawable \x7b ... \x7d\n```"]
  | _ => none

/-- A piece of code to fill in: placeholders are written `$` and a braced number with a hint. Each
snippet is one item of `complete`, behind the keywords and the built-ins. -/
structure Snippet where
  label : String
  detail : String
  body : String
  note : Option String
  deriving DecidableEq, Repr

def snippets : List Snippet :=
  [{ label := "interface", detail := "Interface declaration",
     body := "interface $\x7b1:Name\x7d \x7b\n" ++
       "\tdef $\x7b2:method\x7d($\x7b3:params\x7d) -> $\x7b4:ReturnType\x7d;\n\x7d",
     note := some "Create a new interface" },
   { label := "abstract class", detail := "Abstract class declaration",
     body := "abstract class $\x7b1:Name\x7d \x7b\n" ++
       "\tabstract def $\x7b2:method\x7d() -> $\x7b3:ReturnType\x7d;\n\t\n" ++
       "\tdef $\x7b4:concrete_method\x7d() -> None \x7b\n\t\t$\x7b5:pass\x7d;\n\t\x7d\n\x7d",
     note := none },
   { label := "final class", detail := "Final class declaration",
     body := "final class $\x7b1:Name\x7d \x7b\n" ++
       "\tdef __init__(self$\x7b2:, params\x7d) -> None \x7b\n\t\t$\x7b3:pass\x7d;\n\t\x7d\n\x7d",
     note := none },
   { label := "static def", detail := "Static method declaration",
     body := "static def $\x7b1:method_name\x7d($\x7b2:params\x7d) " ++
       "-> $\x7b3:ReturnType\x7d \x7b\n\t$\x7b4:pass\x7d;\n\x7d",
     note := none }]

end Vocabulary
end SpiceKit
