import HostTopology.Text.Blank
import HostTopology.Text.Letter

/-!
# Naming — the name of the instance that a Dockerfile describes

`instanceName` takes what the file name says beside the word Dockerfile. Where it says nothing, the
name is that of the repository of the base image.
-/

namespace HostTopology
namespace Dockerfile

open Text

def defaultFileName : String := "Dockerfile"

/-- The text after the last slash or backslash. -/
def baseName (path : List Char) : List Char :=
  ((splitAll (fun c => c = '/' || c = '\\') path).getLast?).getD []

/-! ## The word Dockerfile -/

def marker : List Char := "dockerfile".toList

/-- A character stands for a small letter. The dotless i has no lower case and counts as i. -/
def isLetter (c letter : Char) : Bool :=
  (lowerChar c).head? = some letter || (c = 'ı' && letter = 'i')

def isMarker (cs : List Char) : Bool :=
  cs.length = marker.length && (cs.zip marker).all fun (c, letter) => isLetter c letter

/-- The text after the word and a point, which can be missing. -/
def dropMarkerAtStart (cs : List Char) : List Char :=
  if isMarker (cs.take marker.length) then
    match cs.drop marker.length with
    | '.' :: rest => rest
    | rest => rest
  else cs

/-- The text before the word at the end, and before a point in front of the word. A line feed after
the word stays. -/
def dropMarkerAtEnd (cs : List Char) : List Char :=
  let body := dropFinalBreak cs
  let before := body.take (body.length - marker.length)
  if isMarker (body.drop before.length) then
    (if before.getLast? = some '.' then before.dropLast else before) ++ cs.drop body.length
  else cs

def stem (fileName : List Char) : List Char :=
  dropMarkerAtEnd (dropMarkerAtStart (baseName fileName))

/-! ## The name -/

/-- The last part of an image reference, without its digest and its tag. -/
def repository (image : List Char) : List Char :=
  (cut ':' (cut '@' (cutLast '/' image).2).1).1

def isNameChar (c : Char) : Bool :=
  c.isLower || c.isDigit || c = '_'

def instanceName (fileName : String) (baseImage : Option String) : String :=
  let stem := match stem fileName.toList with
    | [] => ((baseImage.map fun image => repository image.toList)).getD []
    | stem => stem
  let name := trimBy (· = '_') ((lower stem).map fun c => if isNameChar c then c else '_')
  if name = [] then "container" else String.ofList name

end Dockerfile
end HostTopology
