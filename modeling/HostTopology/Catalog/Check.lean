import HostTopology.Catalog.Basic
import HostTopology.Identifier
import HostTopology.Value.Basic

/-!
# Check — a value held against the constraints of a parameter

`Parameter.check` lists what is wrong with a value, in a fixed order: a required value that is
missing, and then length, pattern and identifier of a text, range of a number, and membership among
the allowed values. Null stands for a value that is not given.
-/

namespace HostTopology
namespace Catalog

inductive ParameterFault where
  | missing
  | tooShort (least : Int)
  | tooLong (most : Int)
  | format
  | notIdentifier
  | tooSmall (least : Int)
  | tooLarge (most : Int)
  | notAllowed (allowed : List Literal)
deriving DecidableEq, Repr

def Literal.display : Literal → String
  | text s => s
  | int n => toString n

def Literal.value : Literal → Value
  | text s => .text s
  | int n => .int n

/-- The message about a fault of the parameter called `name`. -/
def ParameterFault.message (name : String) : ParameterFault → String
  | missing => name ++ " is required"
  | tooShort least => name ++ " must be at least " ++ toString least ++ " characters"
  | tooLong most => name ++ " must be at most " ++ toString most ++ " characters"
  | format => name ++ " has an invalid format"
  | notIdentifier => name ++ " must be a valid C# identifier"
  | tooSmall least => name ++ " must be at least " ++ toString least
  | tooLarge most => name ++ " must be at most " ++ toString most
  | notAllowed allowed => name ++ " must be one of: " ++ ", ".intercalate (allowed.map Literal.display)

/-! ## Parts of the check -/

/-- A fault where a bound is given and the test fails on it. -/
def against (bound : Option Int) (fails : Int → Bool) (fault : Int → ParameterFault) :
    List ParameterFault :=
  match bound with
  | some b => if fails b then [fault b] else []
  | none => []

def Constraints.checkText (c : Constraints) (s : String) : List ParameterFault :=
  against c.minLength (fun n => (s.length : Int) < n) .tooShort
    ++ against c.maxLength (fun n => n < s.length) .tooLong
    ++ (if c.pattern.any fun p => !p.accepts s then [.format] else [])
    ++ (if c.isIdentifier && !HostTopology.isIdentifier s then [.notIdentifier] else [])

/-- A number is less than a whole number. Floats are compared exactly. -/
def isBelow (x : Value.Number) (n : Int) : Bool :=
  match x with
  | .exact m => m < n
  | .approximate x =>
    if x.isFinite then (Value.wholeFloat? x.floor).any (· < n) else x < 0

def isAbove (x : Value.Number) (n : Int) : Bool :=
  match x with
  | .exact m => n < m
  | .approximate x =>
    if x.isFinite then (Value.wholeFloat? x.ceil).any (n < ·) else x > 0

def Constraints.checkNumber (c : Constraints) (x : Value.Number) : List ParameterFault :=
  against c.minValue (isBelow x) .tooSmall ++ against c.maxValue (isAbove x) .tooLarge

def Constraints.checkAllowed (c : Constraints) (v : Value) : List ParameterFault :=
  match c.allowed with
  | some allowed => if allowed.any fun a => v.sameKey a.value then [] else [.notAllowed allowed]
  | none => []

def Constraints.check (c : Constraints) (v : Value) : List ParameterFault :=
  (match v with
    | .text s => c.checkText s
    | .int n => c.checkNumber (.exact n)
    | .float x => c.checkNumber (.approximate x)
    | _ => []) ++ c.checkAllowed v

/-! ## The check -/

/-- Null, and the empty text where a value is required. -/
def isMissing : Value → Bool
  | .null => true
  | .text s => s = ""
  | _ => false

def Parameter.check (p : Parameter) (v : Value) : List ParameterFault :=
  if p.isRequired && isMissing v then [.missing]
  else
    match v, p.constraints with
    | .null, _ => []
    | _, some c => c.check v
    | _, none => []

/-- The messages about a value. -/
def Parameter.complaints (p : Parameter) (v : Value) : List String :=
  (p.check v).map (ParameterFault.message p.name)

end Catalog
end HostTopology
