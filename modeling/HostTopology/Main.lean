import HostTopology.Command.Run

/-!
# Main — the command line program

The commands run on the files of the disk.
-/

namespace HostTopology
namespace Command

/-- Why an operation on a path failed, judged by what is there. -/
def diskFault (files : Path → IO (Option FileKind)) (path : Path) : IO FileFault := do
  if path.hasNull then return .nullInName
  if path.isLong || path.names.any Path.isLongName then return .nameTooLong
  match ← files path with
  | some .directory => return .isDirectory
  | some .file => return .alreadyThere
  | none =>
    let above := (List.range path.names.length).map fun n => { path with names := path.names.take n }
    for p in above do
      if (← files p) = some .file then return .notDirectory
    return .notFound

def diskKind? (path : Path) : IO (Option FileKind) := do
  let place := (← IO.currentDir) / path.toText
  if ← place.isDir then return some .directory
  if ← place.pathExists then return some .file
  return none

def lookUp (path : Path) : IO (Except FileError (Option FileKind)) := do
  if path.isLong || path.names.any Path.isLongName then return .error ⟨.nameTooLong, path⟩
  return .ok (← diskKind? path)

def attempt {α : Type} (path : Path) (act : IO α) : IO (Except FileError α) :=
  try
    return .ok (← act)
  catch _ =>
    return .error ⟨← diskFault diskKind? path, path⟩

/-- A directory that is there is in the way of a new one. -/
def makeDiskDirectory (path : Path) : IO (Except FileError Unit) := do
  if (← diskKind? path).isSome then return .error ⟨.alreadyThere, path⟩
  attempt path (IO.FS.createDir path.toText)

def diskFiles : Files IO where
  here := do return Path.ofText (← IO.currentDir).toString
  kind? := lookUp
  read := fun path => attempt path (IO.FS.readBinFile path.toText)
  write := fun path text => attempt path (IO.FS.writeFile path.toText text)
  makeDirectory := makeDiskDirectory

def numeralMessage : Text.NumeralError → String
  | .notDecimal => "a port has a digit that is not decimal"
  | .tooLong => "a number has too many digits"

def Failure.message : Failure → String
  | file e => e.message
  | notUtf8 => "the file is no UTF-8 text"
  | numeral e => numeralMessage e
  | compile (.numeral e) => numeralMessage e
  | compile (.indent _) => "the indent is out of range"
  | scalar _ => "a scalar has no value"
  | lostArgument => "an argument has no value"

/-- The exit code; what breaks the program off is printed. -/
def Ending.code : Ending → IO UInt32
  | exited code => return code.toUInt32
  | refused _ => return 1
  | failed failure => do
    IO.eprintln failure.message
    return 1

end Command
end HostTopology

def main (arguments : List String) : IO UInt32 := do
  let outcome ← HostTopology.Command.run HostTopology.Command.diskFiles arguments
  IO.print outcome.out
  IO.eprint outcome.err
  outcome.ending.code
