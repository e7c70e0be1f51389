import HostTopology.Text.Blank
import HostTopology.Text.Digit
import HostTopology.Text.Word
import HostTopology.Topology.Basic

/-!
# Service — the services of a compose file

A compose file is read line by line; lines that are blank or comments are not looked at.

* `Service` — what the lines of a service say;
* `Open.step` — what one such line does, with the section that is open;
* `Scanner.step` — what any line does to what is carried from one line to the next;
* `services` — the services of a text.

Services are indented by two blanks or a tab. A section is an inline list, or the indented lines
that follow its key. Whatever is not understood is passed over.
-/

namespace HostTopology
namespace Compose

open Text

abbrev Line := List Char

/-! ## Kinds of lines -/

def isNameChar (c : Char) : Bool :=
  isWord c || c = '.' || c = '-'

/-- A name that begins with a letter, a digit or a low line, before a colon. -/
def nameBeforeColon? : List Char → Option String
  | [] => none
  | c :: cs =>
    let afterName := cs.dropWhile isNameChar
    if isWord c && (afterName.dropWhile isBlank).head? = some ':' then
      some (String.ofList (c :: cs.takeWhile isNameChar))
    else none

/-- The name of a service whose indented line this is. -/
def serviceName? : Line → Option String
  | a :: b :: rest =>
    let wide := if isBlank a && isBlank b then nameBeforeColon? rest else none
    wide.or (if a = '\t' then nameBeforeColon? (b :: rest) else none)
  | _ => none

/-- Blank lines and comments. -/
def isIdle (l : Line) : Bool :=
  match trim l with
  | [] => true
  | c :: _ => c = '#'

/-- A line that is not indented. -/
def isTop (l : Line) : Bool :=
  l.head?.any fun c => !isBlank c

/-! ## Values -/

def isQuote (c : Char) : Bool :=
  c = '"' || c = '\''

/-- The text without blanks around it, and then without a pair of equal quotes around it. -/
def unquote (cs : List Char) : List Char :=
  match trim cs with
  | q :: rest => if isQuote q && rest.getLast? = some q then rest.dropLast else q :: rest
  | [] => []

/-- The text before a comment. A comment has a blank before it. -/
def dropComment : List Char → List Char
  | [] => []
  | c :: cs => if isBlank c && (cs.dropWhile isBlank).head? = some '#' then [] else c :: dropComment cs

/-- The items between square brackets. -/
def inlineList? (value : List Char) : Option (List (List Char)) :=
  match trim value with
  | '[' :: rest =>
    if rest.getLast? = some ']' then
      some (((splitAll (· = ',') rest.dropLast).filter fun item => trim item ≠ []).map unquote)
    else none
  | _ => none

/-! ## Services -/

/-- The sections of a service that are read. -/
inductive Section where
  | ports
  | dependsOn
  | environment
  | volumes
deriving DecidableEq, Repr

def Section.ofKey? (key : String) : Option Section :=
  match key with
  | "ports" => some .ports
  | "depends_on" => some .dependsOn
  | "environment" => some .environment
  | "volumes" => some .volumes
  | _ => none

structure Service where
  name : String
  image : Option String
  ports : List PortMapping
  dependsOn : List String
  envVars : List EnvVar
  volumes : List VolumeMount
deriving DecidableEq, Repr

namespace Service

def named (name : String) : Service :=
  ⟨name, none, [], [], [], []⟩

def isNumeral (cs : List Char) : Bool :=
  !cs.isEmpty && cs.all isDecimal

def isAddress (cs : List Char) : Bool :=
  !cs.isEmpty && cs.all fun c => isDecimal c || c = '.'

/-- A host port and a container port, with or without an address before them, or one port. -/
def portOf? (port : List Char) : Option PortMapping :=
  let pair (host container : List Char) : Option PortMapping :=
    if isNumeral host && isNumeral container then
      some ⟨String.ofList container, some (String.ofList host)⟩
    else none
  match splitAll (· = ':') port with
  | [host, container] => pair host container
  | [address, host, container] => if isAddress address then pair host container else none
  | [port] => if allDigits port then some ⟨String.ofList port, none⟩ else none
  | _ => none

/-- Only directories and files of the host are mounts; a name would be a volume. -/
def mountOf? (item : List Char) : Option VolumeMount :=
  match cut ':' item with
  | (source, some target) =>
    if source.head?.any fun c => c = '.' || c = '/' || c = '~' then
      some ⟨String.ofList source, String.ofList (cut ':' target).1⟩
    else none
  | (_, none) => none

def envVarOf (item : List Char) : EnvVar :=
  let (key, value) := cut '=' item
  ⟨String.ofList (trim key), String.ofList (trim (value.getD []))⟩

def addItem (s : Service) (sec : Section) (raw : List Char) : Service :=
  match unquote (dropComment raw) with
  | [] => s
  | item =>
    match sec with
    | .ports => { s with ports := s.ports ++ (portOf? (cut '/' item).1).toList }
    | .dependsOn => { s with dependsOn := s.dependsOn ++ [String.ofList item] }
    | .environment => { s with envVars := s.envVars ++ [envVarOf item] }
    | .volumes => { s with volumes := s.volumes ++ (mountOf? item).toList }

/-- An entry in a section. A dependency can have details below it. -/
def addEntry (s : Service) (sec : Section) (key value : List Char) : Service :=
  match sec with
  | .environment =>
    { s with envVars := s.envVars ++ [⟨String.ofList key, String.ofList (unquote value)⟩] }
  | .dependsOn => if value = [] then { s with dependsOn := s.dependsOn ++ [String.ofList key] } else s
  | _ => s

end Service

/-! ## Lines of a service -/

/-- A line with a dash holds an item; one with a colon a key and a value. -/
inductive Content where
  | item (raw : List Char)
  | entry (indent : Nat) (key value : List Char)
  | other
deriving DecidableEq, Repr

def Content.ofLine (l : Line) : Content :=
  match l.dropWhile isBlank with
  | '-' :: rest => .item (rest.dropWhile isBlank)
  | rest =>
    let key := rest.takeWhile isNameChar
    match key, (rest.dropWhile isNameChar).dropWhile isBlank with
    | _ :: _, ':' :: value => .entry (l.length - rest.length) key (trim (dropComment (value.dropWhile isBlank)))
    | _, _ => .other

/-- A service that is being read, and the open section with the indentation of its key. -/
structure Open where
  service : Service
  within : Option (Section × Nat)
deriving DecidableEq, Repr

namespace Open

/-- A key of the service itself. It closes the section before it. -/
def setKey (o : Open) (indent : Nat) (key value : List Char) : Open :=
  let key := String.ofList key
  if key = "image" then ⟨{ o.service with image := some (String.ofList (unquote value)) }, none⟩
  else
    match Section.ofKey? key, inlineList? value with
    | some sec, some items => ⟨items.foldl (fun s item => s.addItem sec item) o.service, none⟩
    | some sec, none => ⟨o.service, if value = [] then some (sec, indent) else none⟩
    | none, _ => ⟨o.service, none⟩

def step (o : Open) (l : Line) : Open :=
  match Content.ofLine l, o.within with
  | .item raw, some (sec, _) => { o with service := o.service.addItem sec raw }
  | .entry indent key value, some (sec, outer) =>
    if outer < indent then { o with service := o.service.addEntry sec key value }
    else o.setKey indent key value
  | .entry indent key value, none => o.setKey indent key value
  | _, _ => o

end Open

/-! ## Lines of a file -/

/-- What is carried from line to line: the services before the current one, the current one if there is any, the
section that is open, the indentation of the section that was opened last, and whether the lines are under
`services:`. -/
structure Scanner where
  earlier : List Service
  current : Option Service
  openSection : Option Section
  sectionIndent : Nat
  inServices : Bool
deriving DecidableEq, Repr

namespace Scanner

def start : Scanner :=
  ⟨[], none, none, 0, false⟩

/-- The services that have been found. -/
def services (s : Scanner) : List Service :=
  s.earlier ++ s.current.toList

/-- The open section, with the indentation of its key. -/
def within (s : Scanner) : Option (Section × Nat) :=
  s.openSection.map fun sec => (sec, s.sectionIndent)

/-- A line that is not indented. No service is current after it. -/
def top (s : Scanner) (inServices : Bool) : Scanner :=
  ⟨s.services, none, none, s.sectionIndent, inServices⟩

/-- The line of a service, which becomes the current one. -/
def enter (s : Scanner) (name : String) : Scanner :=
  { s with earlier := s.services, current := some (.named name), openSection := none }

/-- Another line of the current service. -/
def inside (s : Scanner) (service : Service) (l : Line) : Scanner :=
  let o := Open.step ⟨service, s.within⟩ l
  { s with
    current := some o.service
    openSection := o.within.map Prod.fst
    sectionIndent := (o.within.map Prod.snd).getD s.sectionIndent }

def step (s : Scanner) (raw : Line) : Scanner :=
  let l := trimRight raw
  if isIdle l then s
  else if isTop l then s.top (trim l = "services:".toList)
  else if s.inServices then
    match serviceName? l, s.current with
    | some name, _ => s.enter name
    | none, some service => s.inside service l
    | none, none => s
  else s

end Scanner

def services (text : String) : List Service :=
  ((lines text.toList).foldl Scanner.step .start).services

end Compose
end HostTopology
