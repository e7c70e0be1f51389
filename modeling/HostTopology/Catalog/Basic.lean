import HostTopology.Text.Blank

/-!
# Basic — resource types and the methods of their hosting packages

* `ResourceCategory` — the groups that decide which connections make sense;
* `Parameter`, `Constraints` — what a method takes;
* `ApiMethod`, `ChainingMethod` — a method that declares a resource or a part of it, and one that
  can follow a declaration;
* `ResourceType` — everything known about one type of resource.
-/

namespace HostTopology

inductive ResourceCategory where
  | database
  | cache
  | messaging
  | ai
  | compute
  | project
  | container
  | storage
deriving DecidableEq, Repr

def ResourceCategory.name : ResourceCategory → String
  | database => "database"
  | cache => "cache"
  | messaging => "messaging"
  | ai => "ai"
  | compute => "compute"
  | project => "project"
  | container => "container"
  | storage => "storage"

namespace Catalog

/-! ## Patterns -/

/-- The patterns that texts are held against. -/
inductive Pattern where
  | script
  | envKey
  | image
deriving DecidableEq, Repr

namespace Pattern

open Text

def all : List Pattern :=
  [script, envKey, image]

/-- The pattern as a regular expression. -/
def text : Pattern → String
  | script => "\\.py$"
  | envKey => "^[A-Z_][A-Z0-9_]*$"
  | image => "^[a-z0-9]+([._\\-/][a-z0-9]+)*$"

def ofText? (s : String) : Option Pattern :=
  all.find? fun p => p.text = s

def isScript (cs : List Char) : Bool :=
  ['.', 'p', 'y'].isSuffixOf cs

def isEnvKey : List Char → Bool
  | c :: cs => (c.isUpper || c = '_') && cs.all fun c => c.isUpper || c.isDigit || c = '_'
  | [] => false

def isImageSeparator (c : Char) : Bool :=
  c = '.' || c = '_' || c = '-' || c = '/'

/-- Parts of small letters and digits with single separators between them. -/
def isImage (cs : List Char) : Bool :=
  (splitAll isImageSeparator cs).all fun part => !part.isEmpty && part.all fun c => c.isLower || c.isDigit

def accepts (p : Pattern) (s : String) : Bool :=
  let cs := dropFinalBreak s.toList
  match p with
  | script => isScript cs
  | envKey => isEnvKey cs
  | image => isImage cs

end Pattern

/-! ## Parameters -/

/-- A C# type in a signature. -/
structure TypeName where
  name : String
  scope : String
  fullName : String
deriving DecidableEq, Repr

/-- A value in the source of a signature. -/
inductive Literal where
  | text (s : String)
  | int (n : Int)
deriving DecidableEq, Repr

structure Constraints where
  minLength : Option Int
  maxLength : Option Int
  pattern : Option Pattern
  minValue : Option Int
  maxValue : Option Int
  allowed : Option (List Literal)
  isIdentifier : Bool
  isPath : Bool
deriving DecidableEq, Repr

namespace Constraints

def unconstrained : Constraints :=
  ⟨none, none, none, none, none, none, false, false⟩

/-- An identifier of at least one and at most so many characters. -/
def identifier (maxLength : Int) : Constraints :=
  { unconstrained with minLength := some 1, maxLength := some maxLength, isIdentifier := true }

def between (least most : Int) : Constraints :=
  { unconstrained with minValue := some least, maxValue := some most }

def ofPattern (p : Pattern) : Constraints :=
  { unconstrained with pattern := some p }

def path : Constraints :=
  { unconstrained with isPath := true }

def oneOf (values : List Literal) : Constraints :=
  { unconstrained with allowed := some values }

end Constraints

structure Parameter where
  name : String
  type : TypeName
  isRequired : Bool
  default : Option Literal
  description : Option String
  constraints : Option Constraints
deriving DecidableEq, Repr

/-! ## Methods and types -/

structure ApiMethod where
  name : String
  description : String
  parameters : List Parameter
  returnType : TypeName
  extendsType : String
  genericConstraints : List String
deriving DecidableEq, Repr

def ApiMethod.parameter? (m : ApiMethod) (name : String) : Option Parameter :=
  m.parameters.find? fun p => p.name = name

structure ChainingMethod where
  method : ApiMethod
  availableFor : List ResourceCategory
  repeatable : Bool
deriving DecidableEq, Repr

structure ResourceType where
  id : String
  displayName : String
  category : ResourceCategory
  package : String
  packageVersion : String
  builder : ApiMethod
  children : List ApiMethod
  chaining : List String
  builderReturn : TypeName
  connectionString : Option String
  connectsTo : List ResourceCategory
  referencedBy : List ResourceCategory
deriving DecidableEq, Repr

namespace ResourceType

/-- The package with its version, as a directive names it. -/
def packageSpec (t : ResourceType) : String :=
  t.package ++ "@" ++ t.packageVersion

def child? (t : ResourceType) (name : String) : Option ApiMethod :=
  t.children.find? fun m => m.name = name

end ResourceType
end Catalog
end HostTopology
