import HostTopology.Dockerfile.Naming
import HostTopology.Import.Collection
import HostTopology.Text.Digit
import HostTopology.Text.Scan

/-!
# Reader — a topology from a Dockerfile

A Dockerfile describes one container.

* `instructions` — the instructions of a text, each in one line;
* `Build` — what the instructions say: base image, ports and environment;
* `Imported.ofDockerfile` — the container.
-/

namespace HostTopology
namespace Dockerfile

open Text

/-! ## Instructions -/

/-- A line, and the beginning of an instruction that goes on in it. A backslash at the end of a line
leads on to the next. Blank lines and comments are passed over between instructions. -/
def joinLines (pending : List Char) : List (List Char) → List (List Char)
  | [] => if trim pending = [] then [] else [trim pending]
  | l :: ls =>
    let content := trim l
    if pending = [] && (content = [] || content.head? = some '#') then joinLines [] ls
    else if content.getLast? = some '\\' then joinLines (pending ++ content.dropLast ++ [' ']) ls
    else (pending ++ content) :: joinLines [] ls

def instructions (text : List Char) : List (List Char) :=
  joinLines [] (lines text)

/-- The first word, and what follows it. -/
def splitWord (cs : List Char) : List Char × List Char :=
  let cs := trimLeft cs
  (cs.takeWhile fun c => !isBlank c, trim (cs.dropWhile fun c => !isBlank c))

/-! ## Environment -/

def unquote (value : List Char) : List Char :=
  trimBy (fun c => c = '"' || c = '\'') value

/-- Characters between two equal quotes, with the quotes. -/
def quotedValue (q : Char) : Scan (List Char) := do
  Scan.literal q.toString
  let inner ← Scan.run (· ≠ q)
  Scan.literal q.toString
  return q :: inner ++ [q]

def plainValue : Scan (List Char) :=
  Scan.run fun c => !isBlank c

/-- A key and a value with an equals sign between them. -/
def assignment : Scan EnvVar := do
  let key ← Scan.word
  Scan.literal "="
  let value ← Scan.either (quotedValue '"') (Scan.either (quotedValue '\'') plainValue)
  return ⟨key, String.ofList (unquote value)⟩

/-- Either assignments, or one key with the rest of the line as its value. -/
def envVars (rest : List Char) : List EnvVar :=
  let (key, value) := splitWord rest
  if key.contains '=' then Scan.all assignment rest
  else if key = [] then []
  else [⟨String.ofList key, String.ofList (unquote value)⟩]

/-! ## Builds -/

structure Build where
  baseImage : Option String
  ports : List String
  envVars : List EnvVar
deriving DecidableEq, Repr

namespace Build

def empty : Build :=
  ⟨none, [], []⟩

/-- The first word that is no flag. -/
def imageOf (rest : List Char) : Option String :=
  ((fields rest).find? fun word => !(['-', '-'].isPrefixOf word)).map String.ofList

/-- Adds a port, without its protocol, unless it is there. -/
def addPort (b : Build) (word : List Char) : Build :=
  let port := (cut '/' word).1
  if allDigits port && !b.ports.contains (String.ofList port) then
    { b with ports := b.ports ++ [String.ofList port] }
  else b

def step (b : Build) (instruction : List Char) : Build :=
  let (word, rest) := splitWord instruction
  let word := String.ofList (upper word)
  if word = "FROM" then { b with baseImage := b.baseImage.or (imageOf rest) }
  else if word = "EXPOSE" then (fields rest).foldl addPort b
  else if word = "ENV" then { b with envVars := b.envVars ++ Dockerfile.envVars rest }
  else b

def ofText (text : String) : Build :=
  (instructions text.toList).foldl step .empty

def warnings (b : Build) : List String :=
  (match b.baseImage with
    | none => ["No FROM instruction found in the Dockerfile."]
    | some image => ["Base image: " ++ image])
  ++ if b.ports.isEmpty then [] else ["Exposed ports: " ++ ", ".intercalate b.ports]

def draft (b : Build) (fileName : String) : Draft where
  resourceType := "container"
  name := instanceName fileName b.baseImage
  database := none
  config := ⟨b.envVars, b.ports.map fun port => ⟨port, some port⟩, [], none, none⟩

end Build
end Dockerfile

open Dockerfile

def Imported.ofDockerfile (reserved : List String) (fileName text : String) : Imported :=
  let b := Build.ofText text
  let (id, _) := (IdAllocator.start reserved).allocate
  ⟨.ofDrafts [(id, b.draft fileName)] [], b.warnings⟩

end HostTopology
