import HostTopology.Yaml.Node.Basic
import HostTopology.Yaml.Token.Lexer

/-!
# Reader — from tokens to nodes

`Graph.ofText` reads the one document of a text. The grammar functions consume tokens from a state
that also holds the nodes made so far, the anchors met so far and the tag handles in force. Their fuel
is a multiple of the number of tokens: of two calls nested in each other, at least one has consumed a
token.
-/

namespace HostTopology
namespace Yaml

/-- `depth` is the number of collections around the place that is read. -/
structure ReaderState where
  tokens : List Token
  nodes : Graph
  anchors : List (String × Nat)
  handles : List (String × String)
  depth : Nat

abbrev Reader := StateT ReaderState (Except Fault)

namespace Reader

/-- The next token. Where the text itself is unreadable, that ends the reading. -/
def peek : Reader Token := do
  match (← get).tokens.headD .streamEnd with
  | .broken fault => throw fault
  | t => return t

def skip : Reader Unit :=
  modify fun s => { s with tokens := s.tokens.tail }

def fail {α : Type} : Reader α :=
  throw .malformed

def expect (t : Token) : Reader Unit := do
  if (← peek) = t then skip else fail

/-- Takes a token if it is next. -/
def accept (t : Token) : Reader Bool := do
  if (← peek) = t then
    skip
    return true
  else
    return false

def nextIsOneOf (ts : List Token) : Reader Bool := do
  return ts.contains (← peek)

/-! ## Nodes and their names -/

def addNode (x : Node) : Reader Nat :=
  modifyGet fun s => (s.nodes.size, { s with nodes := s.nodes.push x })

def setNode (id : Nat) (x : Node) : Reader Unit :=
  modify fun s => { s with nodes := s.nodes.setIfInBounds id x }

/-- Gives a node its anchor name, which may not be given twice. -/
def setAnchor (name : Option String) (id : Nat) : Reader Unit := do
  match name with
  | none => return
  | some name =>
    if (← get).anchors.any (·.1 = name) then throw .malformed
    else modify fun s => { s with anchors := (name, id) :: s.anchors }

/-- The most collections that may lie around a place. This is a constant of one environment and not of the language or
of the program: a reader that calls itself for every collection runs out of a stack of a thousand calls there. -/
def depthLimit : Nat := 488

/-- Reads the parts of a collection. The collection has its number, and its name, before them. -/
def collection {α : Type} (name : Option String) (make : List α → Node) (parts : Reader (List α)) :
    Reader Nat := do
  let id ← addNode (make [])
  setAnchor name id
  if (← get).depth = depthLimit then throw .tooDeep
  else
    modify fun s => { s with depth := s.depth + 1 }
    setNode id (make (← parts))
    modify fun s => { s with depth := s.depth - 1 }
    return id

def leaf (name : Option String) (x : Node) : Reader Nat := do
  let id ← addNode x
  setAnchor name id
  return id

/-! ## Properties of a node -/

def anchor? : Reader (Option String) := do
  match ← peek with
  | .anchor name =>
    skip
    return some name
  | _ => return none

/-- The handle and the suffix of a tag. -/
def tagParts? : Reader (Option (Option String × String)) := do
  match ← peek with
  | .tag handle? suffix =>
    skip
    return some (handle?, suffix)
  | _ => return none

/-- A handle has to be in force. -/
def resolveTag : Option (Option String × String) → Reader (Option String)
  | none => return none
  | some (none, suffix) => return some suffix
  | some (some handle, suffix) => do
    match (← get).handles.lookup handle with
    | some lead => return some (lead ++ suffix)
    | none => throw .malformed

/-- Anchor and tag in either order. -/
def properties : Reader (Option String × Option String) := do
  match ← anchor? with
  | some name => return (some name, ← resolveTag (← tagParts?))
  | none =>
    match ← tagParts? with
    | some parts =>
      let name ← anchor?
      return (name, ← resolveTag (some parts))
    | none => return (none, none)

/-- A missing tag, and the tag that says no more than that it is there. -/
def isOpenTag (t : Option String) : Bool :=
  t = none || t = some "!"

def scalarNode (t : Option String) (plain : Bool) (content : Text.Points) : Node :=
  match t with
  | none => .scalar (if plain then (Scalar.kind content.text).tag else Scalar.Kind.text.tag) content
  | some "!" => .scalar (Scalar.kind content.text).tag content
  | some t => .scalar t content

def collectionTag (t : Option String) (standard : String) : String :=
  if isOpenTag t then standard else t.getD standard

/-! ## Nodes -/

/-- The separator before every item but the first. -/
def separator (first : Bool) : Reader Unit :=
  if first then pure () else expect .flowEntry

mutual

/-- A node. Block collections are read where `block` is set, and a sequence that is indented no
further than its mapping where `indentless` is. -/
def node : Nat → Bool → Bool → Reader Nat
  | 0, _, _ => fail
  | n + 1, block, indentless => do
    match ← peek with
    | .alias name =>
      skip
      match (← get).anchors.lookup name with
      | some id => return id
      | none => throw .malformed
    | _ =>
      let (name, t) ← properties
      let sequenceOf := collection name (Node.sequence (collectionTag t Node.sequenceTag))
      let mappingOf := collection name (Node.mapping (collectionTag t Node.mappingTag))
      let absent : Reader Nat :=
        if name.isSome || t.isSome then leaf name (scalarNode t true (.whole "")) else fail
      match ← peek with
      | .blockEntry => if indentless then sequenceOf (indentlessEntries n) else absent
      | .scalar plain content =>
        skip
        leaf name (scalarNode t plain content)
      | .flowSequenceStart =>
        skip
        sequenceOf (flowItems n true)
      | .flowMappingStart =>
        skip
        mappingOf (flowEntries n true)
      | .blockSequenceStart =>
        if block then
          skip
          sequenceOf (blockItems n)
        else absent
      | .blockMappingStart =>
        if block then
          skip
          mappingOf (blockEntries n)
        else absent
      | _ => absent

/-- A node, or the empty node where one of the given tokens comes next. -/
def nodeUnless : Nat → List Token → Bool → Bool → Reader Nat
  | 0, _, _, _ => fail
  | n + 1, stops, block, indentless => do
    if ← nextIsOneOf stops then addNode .empty
    else node n block indentless

def blockItems : Nat → Reader (List Nat)
  | 0 => fail
  | n + 1 => do
    if ← accept .blockEntry then
      let x ← nodeUnless n [.blockEntry, .blockEnd] true false
      return x :: (← blockItems n)
    else
      expect .blockEnd
      return []

def indentlessEntries : Nat → Reader (List Nat)
  | 0 => fail
  | n + 1 => do
    if ← accept .blockEntry then
      let x ← nodeUnless n [.blockEntry, .key, .value, .blockEnd] true false
      return x :: (← indentlessEntries n)
    else
      return []

def blockEntries : Nat → Reader (List (Nat × Nat))
  | 0 => fail
  | n + 1 => do
    let stops := [.key, .value, .blockEnd]
    if ← accept .key then
      let k ← nodeUnless n stops true true
      let v ← if ← accept .value then nodeUnless n stops true true else addNode .empty
      return (k, v) :: (← blockEntries n)
    else
      expect .blockEnd
      return []

def flowItems : Nat → Bool → Reader (List Nat)
  | 0, _ => fail
  | n + 1, first => do
    if ← accept .flowSequenceEnd then return []
    else
      separator first
      if ← accept .key then
        let k ← nodeUnless n [.value, .flowEntry, .flowSequenceEnd] false false
        let v ← if ← accept .value then nodeUnless n [.flowEntry, .flowSequenceEnd] false false
          else addNode .empty
        let x ← addNode (.mapping Node.mappingTag [(k, v)])
        return x :: (← flowItems n false)
      else if ← accept .flowSequenceEnd then return []
      else
        let x ← node n false false
        return x :: (← flowItems n false)

def flowEntries : Nat → Bool → Reader (List (Nat × Nat))
  | 0, _ => fail
  | n + 1, first => do
    if ← accept .flowMappingEnd then return []
    else
      separator first
      if ← accept .key then
        let k ← nodeUnless n [.value, .flowEntry, .flowMappingEnd] false false
        let v ← if ← accept .value then nodeUnless n [.flowEntry, .flowMappingEnd] false false
          else addNode .empty
        return (k, v) :: (← flowEntries n false)
      else if ← accept .flowMappingEnd then return []
      else
        let k ← node n false false
        let v ← addNode .empty
        return (k, v) :: (← flowEntries n false)

end

/-! ## Documents -/

def standardHandles : List (String × String) :=
  [("!", "!"), ("!!", Scalar.tagLead)]

/-- The directives before a document: at most one version, of major number one, and each handle once. -/
def directives : Nat → Bool → List (String × String) → Reader Unit
  | 0, _, _ => fail
  | n + 1, versioned, handles => do
    match ← peek with
    | .versionDirective major =>
      if versioned || major ≠ 1 then throw .malformed
      else
        skip
        directives n true handles
    | .tagDirective handle lead =>
      if handles.any (·.1 = handle) then throw .malformed
      else
        skip
        directives n versioned (handles ++ [(handle, lead)])
    | .otherDirective =>
      skip
      directives n versioned handles
    | _ => modify fun s => { s with handles := handles ++ standardHandles }

def isDirective : Token → Bool
  | .versionDirective _ | .tagDirective .. | .otherDirective => true
  | _ => false

def skipDocumentEnds : Nat → Reader Unit
  | 0 => pure ()
  | n + 1 => do
    if ← accept .documentEnd then skipDocumentEnds n else pure ()

/-- The start mark of a document with the directives before it; none at the end of the text. -/
def documentStart? (fuel : Nat) : Reader Bool := do
  skipDocumentEnds fuel
  if (← peek) = .streamEnd then return false
  else
    directives fuel false []
    expect .documentStart
    return true

/-- What follows a start mark. -/
def markedDocument (fuel : Nat) : Reader Nat := do
  let next ← peek
  if isDirective next || [.documentStart, .documentEnd, .streamEnd].contains next then addNode .empty
  else node fuel true false

/-- The only document of a text; none if the text is empty. -/
def document (fuel : Nat) : Reader (Option Nat) := do
  let next ← peek
  let found ←
    if isDirective next || [.documentStart, .streamEnd].contains next then do
      if ← documentStart? fuel then some <$> markedDocument fuel else pure none
    else do
      modify fun s => { s with handles := standardHandles }
      some <$> node fuel true false
  let _ ← accept .documentEnd
  if ← documentStart? fuel then fail else return found

end Reader

/-- The nodes of the one document in a text, and the number of its outermost node; none for a text
without a document. -/
def Graph.ofText (text : String) : Except Fault (Option (Graph × Nat)) := do
  let tokens := Token.ofText text
  let (found, s) ← Reader.document (4 * tokens.length + 8) ⟨tokens, #[], [], [], 0⟩
  return found.map fun id => (s.nodes, id)

end Yaml
end HostTopology
