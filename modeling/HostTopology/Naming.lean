import HostTopology.Identifier
import HostTopology.Text.Letter

/-!
# Naming — names derived from names

* `variableName` — the camel-case variable that a resource is declared as;
* `capitalizeFirst` — the class name that belongs to a variable;
* `suggestIdentifier`, `suggestEnvKey` — an accepted name near a refused one;
* `containerImageName` — the last part of an image reference;
* `sanitizeServiceName` — a service name without the separators that identifiers lack.
-/

namespace HostTopology
namespace Naming

open Text

/-- The text, or another one in place of the empty text. -/
def orElse (default : String) (cs : List Char) : String :=
  if cs = [] then default else String.ofList cs

/-- The parts of a text between characters that are no ASCII letters or digits. -/
def asciiWords (cs : List Char) : List (List Char) :=
  (splitAll (fun c => !c.isAlphanum) cs).filter (· ≠ [])

def camelCase : List (List Char) → List Char
  | [] => []
  | w :: ws => w.map Char.toLower ++ (ws.map capitalize).flatten

/-- Puts a character before a leading digit. -/
def guardDigit (c : Char) (cs : List Char) : List Char :=
  if cs.head?.any Char.isDigit then c :: cs else cs

def variableName (name : String) : String :=
  orElse "resource" (guardDigit 'n' (camelCase (asciiWords name.toList)))

def capitalizeFirst (s : String) : String :=
  match s.toList with
  | [] => ""
  | c :: cs => String.ofList (upperChar c ++ cs)

def suggestIdentifier (name : String) : String :=
  orElse "resource" (guardDigit '_' (name.toList.map fun c => if Identifier.isNext c then c else '_'))

def isEnvKeyChar (c : Char) : Bool :=
  c.isUpper || c.isDigit

def suggestEnvKey (key : String) : String :=
  String.ofList ((upper key.toList).map fun c => if isEnvKeyChar c then c else '_')

def isImageChar (c : Char) : Bool :=
  c.isLower || c.isDigit

/-- The parts of an image name, in lower case. -/
def imageWords (cs : List Char) : List (List Char) :=
  (splitAll (fun c => !isImageChar c) (lower cs)).filter (· ≠ [])

def containerImageName (name : String) : String :=
  orElse "container" (['_'].intercalate (imageWords name.toList))

def sanitizeServiceName (name : String) : String :=
  String.ofList (name.toList.map fun c => if c = '-' ∨ c = '.' then '_' else c)

end Naming
end HostTopology
