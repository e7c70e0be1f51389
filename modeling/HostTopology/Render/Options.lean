import HostTopology.Catalog.Aspire

/-!
# Options — the choices in rendering an AppHost

`RenderOptions.indent` is the text before a chained call. `RenderOptions.indent?` tells why there is
none if its size is out of range.
-/

namespace HostTopology

structure RenderOptions where
  /-- Version in the directive that names the SDK. -/
  aspireVersion : String
  /-- Number of spaces before a chained call; none if it is not positive. -/
  indentSize : Int
  /-- Whether the display name stands as a comment above each declaration. -/
  includeComments : Bool
deriving DecidableEq, Repr

/-- Why an indent cannot be written. -/
inductive IndentError where
  /-- Its size is no signed word of 64 bits. -/
  | beyondWord
  /-- It has more characters than there is memory for. -/
  | beyondMemory
deriving DecidableEq, Repr

namespace RenderOptions

def standard : RenderOptions :=
  ⟨Catalog.aspireVersion, 4, false⟩

def indent (o : RenderOptions) : String :=
  String.ofList (List.replicate o.indentSize.toNat ' ')

/-- The least size that is above every signed word of 64 bits. -/
def wordBound : Int := 9223372036854775808

/-- The least size that there is no memory for. This is a constant of one environment, a machine that gives a text
64 GiB and no more. The program does not name it, and all that is used of it is that sizes below it fit in a word. -/
def memoryBound : Int := 68719476736

/-- The indent, if its size is in range. -/
def indent? (o : RenderOptions) : Except IndentError String :=
  if o.indentSize < -wordBound || wordBound ≤ o.indentSize then .error .beyondWord
  else if memoryBound ≤ o.indentSize then .error .beyondMemory
  else .ok o.indent

end RenderOptions
end HostTopology
