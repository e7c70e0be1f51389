import HostTopology.Command.Files

/-!
# FileTree — files in memory

A `FileTree` holds directories and files by their names from the root. `FileTree.files` are the
operations on it.
-/

namespace HostTopology

structure FileTree where
  here : List String
  directories : List (List String)
  contents : List (List String × ByteArray)

namespace FileTree

def kindAt (t : FileTree) (place : List String) : Option FileKind :=
  if t.directories.contains place then some .directory
  else if t.contents.any (·.1 = place) then some .file
  else none

/-- The place that names lead to. Every place on the way has to be a directory. -/
def walk (t : FileTree) : List String → List String → Except FileFault (List String)
  | place, [] => .ok place
  | place, name :: names =>
    match t.kindAt place with
    | some .directory =>
      if Path.isLongName name then .error .nameTooLong
      else walk t (if name = ".." then place.dropLast else place ++ [name]) names
    | some .file => .error .notDirectory
    | none => .error .notFound

def locate (t : FileTree) (p : Path) : Except FileFault (List String) :=
  if p.hasNull then .error .nullInName
  else if p.isLong then .error .nameTooLong
  else t.walk (if p.isAbsolute then [] else t.here) p.names

def kind? (t : FileTree) (p : Path) : Except FileFault (Option FileKind) :=
  match t.locate p with
  | .ok place => .ok (t.kindAt place)
  | .error .nameTooLong => .error .nameTooLong
  | .error _ => .ok none

def read (t : FileTree) (p : Path) : Except FileFault ByteArray := do
  let place ← t.locate p
  if t.directories.contains place then .error .isDirectory
  else
    match t.contents.find? (·.1 = place) with
    | some (_, octets) => .ok octets
    | none => .error .notFound

/-- Replaces the file at a place, or adds one. -/
def put (t : FileTree) (place : List String) (octets : ByteArray) : FileTree :=
  { t with contents := t.contents.filter (·.1 ≠ place) ++ [(place, octets)] }

def write (t : FileTree) (p : Path) (text : String) : Except FileFault FileTree := do
  let place ← t.locate p
  if t.directories.contains place then .error .isDirectory else .ok (t.put place text.toUTF8)

def makeDirectory (t : FileTree) (p : Path) : Except FileFault FileTree := do
  let place ← t.locate p
  if (t.kindAt place).isSome then .error .alreadyThere
  else .ok { t with directories := t.directories ++ [place] }

/-- The directories that a place lies in. -/
def above (place : List String) : List (List String) :=
  (List.range place.length).map place.take

/-- A tree with nothing but the working directory. -/
def start (here : List String) : FileTree :=
  ⟨here, above here ++ [here], []⟩

/-- Adds a file below the working directory, with the directories that it lies in. -/
def withFile (t : FileTree) (names : List String) (octets : ByteArray) : FileTree :=
  let place := t.here ++ names
  { t.put place octets with
    directories := t.directories ++ (above place).filter fun d => !t.directories.contains d }

/-! ## Operations -/

/-- Changes the tree if a step succeeds. -/
def step (p : Path) (f : FileTree → Except FileFault FileTree) : StateM FileTree (Except FileError Unit) :=
  fun t =>
    match f t with
    | .ok t => (.ok (), t)
    | .error fault => (.error ⟨fault, p⟩, t)

def files : Files (StateM FileTree) where
  here := do return ⟨"/", (← get).here⟩
  kind? := fun p => do return ((← get).kind? p).mapError fun fault => ⟨fault, p⟩
  read := fun p => do return ((← get).read p).mapError fun fault => ⟨fault, p⟩
  write := fun p text => step p fun t => t.write p text
  makeDirectory := fun p => step p fun t => t.makeDirectory p

end FileTree
end HostTopology
