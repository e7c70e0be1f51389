import HostTopology.Text.Blank

/-!
# Identifier — names that C# accepts

`isIdentifier` decides whether a text is an identifier and no keyword. One line feed after the
identifier is not looked at.
-/

namespace HostTopology
namespace Identifier

open Text

/-- Words that are reserved and cannot be identifiers as they are. -/
def keywords : List String := [
  "abstract", "as", "base", "bool", "break", "byte", "case", "catch", "char", "checked",
  "class", "const", "continue", "decimal", "default", "delegate", "do", "double", "else",
  "enum", "event", "explicit", "extern", "false", "finally", "fixed", "float", "for",
  "foreach", "goto", "if", "implicit", "in", "int", "interface", "internal", "is", "lock",
  "long", "namespace", "new", "null", "object", "operator", "out", "override", "params",
  "private", "protected", "public", "readonly", "ref", "return", "sbyte", "sealed", "short",
  "sizeof", "stackalloc", "static", "string", "struct", "switch", "this", "throw", "true",
  "try", "typeof", "uint", "ulong", "unchecked", "unsafe", "ushort", "using", "virtual",
  "void", "volatile", "while"]

def isFirst (c : Char) : Bool :=
  c.isAlpha || c = '_'

def isNext (c : Char) : Bool :=
  c.isAlphanum || c = '_'

/-- An ASCII letter or underscore, then letters, digits and underscores. -/
def hasShape : List Char → Bool
  | c :: cs => isFirst c && cs.all isNext
  | [] => false

end Identifier

def isIdentifier (s : String) : Bool :=
  Identifier.hasShape (Text.dropFinalBreak s.toList) && !Identifier.keywords.contains s

end HostTopology
