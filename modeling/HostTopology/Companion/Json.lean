import HostTopology.Text.Quoted

/-!
# Json — data as indented JSON text

`Json.render` writes every member on a line of its own, two columns further in for each level.
Characters beyond ASCII stand for themselves.
-/

namespace HostTopology

/-- A number is kept as it is written. -/
inductive Json where
  | text (s : String)
  | number (written : String)
  | bool (b : Bool)
  | list (items : List Json)
  | object (members : List (String × Json))
deriving Inhabited

namespace Json

def escape (c : Char) : List Char :=
  if c = '"' ∨ c = '\\' then ['\\', c]
  else if c = '\n' then ['\\', 'n']
  else if c = '\r' then ['\\', 'r']
  else if c = '\t' then ['\\', 't']
  else if c = '\x08' then ['\\', 'b']
  else if c = '\x0c' then ['\\', 'f']
  else if c.toNat < 0x20 then '\\' :: 'u' :: Text.hex 4 c.toNat
  else [c]

def quote (s : String) : String :=
  String.ofList ('"' :: s.toList.flatMap escape ++ ['"'])

def newline (indent : Nat) : String :=
  String.ofList ('\n' :: List.replicate indent ' ')

mutual

def renderAt (indent : Nat) : Json → String
  | text s => quote s
  | number written => written
  | bool b => if b then "true" else "false"
  | list [] => "[]"
  | object [] => "\x7b\x7d"
  | list items =>
    let inner := indent + 2
    "[" ++ newline inner ++ ("," ++ newline inner).intercalate (renderAll inner items)
      ++ newline indent ++ "]"
  | object members =>
    let inner := indent + 2
    "\x7b" ++ newline inner ++ ("," ++ newline inner).intercalate (renderMembers inner members)
      ++ newline indent ++ "\x7d"

def renderAll (indent : Nat) : List Json → List String
  | [] => []
  | j :: js => renderAt indent j :: renderAll indent js

def renderMembers (indent : Nat) : List (String × Json) → List String
  | [] => []
  | (k, j) :: ms => (quote k ++ ": " ++ renderAt indent j) :: renderMembers indent ms

end

def render (j : Json) : String :=
  renderAt 0 j

end Json
end HostTopology
