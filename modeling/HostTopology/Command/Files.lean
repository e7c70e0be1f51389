import HostTopology.Command.Path
import HostTopology.Text.Quoted

/-!
# Files — reading and writing files

* `FileError` — why a file cannot be read or written;
* `Files` — the operations on files that commands are made of, in any monad;
* `Files.makeDirectories` — a directory with all that it lies in;
* `decode` — the text of a file.
-/

namespace HostTopology

/-! ## Errors -/

inductive FileFault where
  | notFound
  | alreadyThere
  | notDirectory
  | isDirectory
  | nameTooLong
  | nullInName
deriving DecidableEq, Repr

structure FileError where
  fault : FileFault
  path : Path
deriving DecidableEq, Repr

def FileFault.text : FileFault → String
  | notFound => "[Errno 2] No such file or directory"
  | alreadyThere => "[Errno 17] File exists"
  | notDirectory => "[Errno 20] Not a directory"
  | isDirectory => "[Errno 21] Is a directory"
  | nameTooLong => "[Errno 36] File name too long"
  | nullInName => "embedded null byte"

def FileError.message (e : FileError) : String :=
  e.fault.text ++ ": " ++ Text.quoted e.path.toText

/-! ## Operations -/

inductive FileKind where
  | file
  | directory
deriving DecidableEq, Repr

structure Files (m : Type → Type) where
  /-- The working directory. -/
  here : m Path
  /-- What is there, if anything. Only a name that is too long is an error. -/
  kind? : Path → m (Except FileError (Option FileKind))
  read : Path → m (Except FileError ByteArray)
  write : Path → String → m (Except FileError Unit)
  makeDirectory : Path → m (Except FileError Unit)

namespace Files

/-- An error about a directory is none if the directory is there. -/
def unlessThere {m : Type → Type} [Monad m] (files : Files m) (e : FileError) : m (Except FileError Unit) := do
  match ← files.kind? e.path with
  | .ok (some .directory) => return .ok ()
  | _ => return .error e

/-- Makes the directory with the given names, last name first, and those that it lies in. -/
def makeChain {m : Type → Type} [Monad m] (files : Files m) (root : String) :
    List String → m (Except FileError Unit)
  | [] => do
    match ← files.makeDirectory ⟨root, []⟩ with
    | .ok _ => return .ok ()
    | .error e => files.unlessThere e
  | name :: above => do
    let path : Path := ⟨root, (name :: above).reverse⟩
    match ← files.makeDirectory path with
    | .ok _ => return .ok ()
    | .error e =>
      if e.fault ≠ .notFound then files.unlessThere e
      else
        match ← makeChain files root above with
        | .error e => return .error e
        | .ok _ =>
          match ← files.makeDirectory path with
          | .ok _ => return .ok ()
          | .error e => if e.fault = .notFound then return .error e else files.unlessThere e

def makeDirectories {m : Type → Type} [Monad m] (files : Files m) (p : Path) :
    m (Except FileError Unit) :=
  files.makeChain p.root p.names.reverse

end Files

/-! ## Text -/

/-- Every line end is a line feed. -/
def unifyBreaks : List Char → List Char
  | [] => []
  | '\r' :: '\n' :: cs => '\n' :: unifyBreaks cs
  | '\r' :: cs => '\n' :: unifyBreaks cs
  | c :: cs => c :: unifyBreaks cs

/-- The text that bytes encode. -/
def decode (octets : ByteArray) : Option String :=
  (String.fromUTF8? octets).map fun s => String.ofList (unifyBreaks s.toList)

end HostTopology
