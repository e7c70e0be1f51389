import HostTopology.Text.Blank

/-!
# Path — paths of files

A `Path` has the names between the slashes, without empty ones and points; two points stay. Two
slashes at the start are a root of their own.
-/

namespace HostTopology

structure Path where
  root : String
  names : List String
deriving DecidableEq, Repr

namespace Path

open Text

def isSlash (c : Char) : Bool :=
  c = '/'

def rootOf (cs : List Char) : String :=
  match (cs.takeWhile isSlash).length with
  | 0 => ""
  | 2 => "//"
  | _ => "/"

def ofText (s : String) : Path where
  root := rootOf s.toList
  names := ((splitAll isSlash s.toList).map String.ofList).filter fun name => name ≠ "" && name ≠ "."

/-- A path without a root and without names is a point. -/
def toText (p : Path) : String :=
  if p.root = "" ∧ p.names = [] then "." else p.root ++ "/".intercalate p.names

def isAbsolute (p : Path) : Bool :=
  p.root ≠ ""

/-- The last name. -/
def name (p : Path) : String :=
  p.names.getLast?.getD ""

def child (p : Path) (name : String) : Path :=
  { p with names := p.names ++ [name] }

/-- Names in which two points take the name before them away. -/
def climb : List String → List String → List String
  | done, [] => done.reverse
  | done, name :: names => climb (if name = ".." then done.tail else name :: done) names

/-- The path from the root that a path stands for in a directory. -/
def absolute (here p : Path) : Path :=
  ⟨"/", climb [] (if p.isAbsolute then p.names else here.names ++ p.names)⟩

/-- No file has a path with this character in it. -/
def hasNull (p : Path) : Bool :=
  p.names.any fun name => name.toList.contains '\x00'

/-- A name has at most 255 octets. -/
def isLongName (name : String) : Bool :=
  255 < name.utf8ByteSize

/-- A path has less than 4096 octets. -/
def isLong (p : Path) : Bool :=
  4096 ≤ p.toText.utf8ByteSize

end Path
end HostTopology
