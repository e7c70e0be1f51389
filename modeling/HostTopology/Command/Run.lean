import HostTopology.Artifacts
import HostTopology.Command.Files
import HostTopology.Command.Invocation
import HostTopology.Config
import HostTopology.Document.Printer
import HostTopology.Template

/-!
# Run — carrying out the commands

`run` carries out what the arguments ask for, with the operations on files that it is given, and
ends in an `Outcome`: what is printed, and how the program ends.

* `Refusal` — why a command is not carried out, as it is told to the user;
* `Failure` — what breaks a command off.
-/

namespace HostTopology
namespace Command

/-! ## Endings -/

inductive Refusal where
  | directoryMissing (path : Path)
  | projectThere (path : Path)
  | topologyMissing (path : Path)
  | topologyUnreadable (e : FileError)
  | document (e : DocumentError)
  | configMissing (path : Path)
  | configUnreadable (e : FileError)
  | config (e : ConfigError)
  | outputDirectory (path : Path) (e : FileError)
  | blocked (messages : List String)
  | unreadable (path : Path) (e : FileError)
  | unwritable (output : String) (e : FileError)
  | template (e : UnknownTemplate)

def Refusal.message : Refusal → String
  | directoryMissing path => "directory '" ++ path.toText ++ "' does not exist."
  | projectThere path => "project already exists at '" ++ path.toText ++ "'."
  | topologyMissing path => "Topology file not found: " ++ path.toText
  | topologyUnreadable e => "Cannot read topology file: " ++ e.message
  | document e => e.message
  | configMissing path => "Project config file not found: " ++ path.toText
  | configUnreadable e => "Cannot read project config file: " ++ e.message
  | config e => e.message
  | outputDirectory path e => "cannot create output directory '" ++ path.toText ++ "': " ++ e.message
  | blocked messages =>
    "code generation blocked by validation errors:" ++ String.join (messages.map ("\n  - " ++ ·))
  | unreadable path e => "cannot read '" ++ path.toText ++ "': " ++ e.message
  | unwritable output e => "cannot write '" ++ output ++ "': " ++ e.message
  | template e => e.message

inductive Failure where
  | file (e : FileError)
  | notUtf8
  | numeral (e : Text.NumeralError)
  | compile (e : CompileError)
  | scalar (fault : Yaml.Fault)
  | lostArgument

inductive Ending where
  | exited (code : Nat)
  | refused (cause : Refusal)
  | failed (failure : Failure)

structure Outcome where
  ending : Ending
  out : String
  err : String

/-! ## Printing -/

structure Console where
  isVerbose : Bool
  out : String
  err : String

abbrev Run (m : Type → Type) := ExceptT Ending (StateT Console m)

namespace Run

def write {m : Type → Type} [Monad m] (text : String) : Run m Unit :=
  modify fun c => { c with out := c.out ++ text }

def writeError {m : Type → Type} [Monad m] (text : String) : Run m Unit :=
  modify fun c => { c with err := c.err ++ text }

def printLine {m : Type → Type} [Monad m] (line : String) : Run m Unit :=
  write (line ++ "\n")

def printError {m : Type → Type} [Monad m] (line : String) : Run m Unit :=
  writeError (line ++ "\n")

/-- A line about what a part of the program does. -/
def debug {m : Type → Type} [Monad m] (part line : String) : Run m Unit := do
  if (← get).isVerbose then printError ("DEBUG " ++ program ++ "." ++ part ++ ": " ++ line)

def refuse {m : Type → Type} {α : Type} [Monad m] (cause : Refusal) : Run m α := do
  printError ("Error: " ++ cause.message)
  throw (.refused cause)

def fail {m : Type → Type} {α : Type} [Monad m] (failure : Failure) : Run m α :=
  throw (.failed failure)

/-- Refuses because of an error with a file. A name that no file can have breaks the command off. -/
def refuseFile {m : Type → Type} {α : Type} [Monad m] (e : FileError) (cause : Refusal) : Run m α :=
  if e.fault = .nullInName then fail (.file e) else refuse cause

end Run

open Run

/-! ## Reading -/

def readText {m : Type → Type} [Monad m] (files : Files m) (path : Path) : Run m (Except FileError String) := do
  match ← (files.read path : m _) with
  | .error e => return .error e
  | .ok octets =>
    match decode octets with
    | some text => return .ok text
    | none => fail .notUtf8

def loadTopology {m : Type → Type} [Monad m] (files : Files m) (path : Path) : Run m Topology := do
  match ← readText files path with
  | .error e =>
    refuseFile e (if e.fault = .notFound then .topologyMissing path else .topologyUnreadable e)
  | .ok text =>
    match Topology.ofDocumentText path.toText text with
    | .ok t => return t
    | .error (.unreadable fault) => fail (.scalar fault)
    | .error (.numeral e) => fail (.numeral e)
    | .error e => refuse (.document e)

def loadConfig {m : Type → Type} [Monad m] (files : Files m) (path : Path) : Run m ProjectConfig := do
  match ← readText files path with
  | .error e => refuseFile e (if e.fault = .notFound then .configMissing path else .configUnreadable e)
  | .ok text =>
    match ProjectConfig.ofText path.toText text with
    | .ok config => return config
    | .error (.unreadable fault) => fail (.scalar fault)
    | .error e => refuse (.config e)

/-- Whether something is at a path. A path that cannot be looked up breaks the command off. -/
def isThere {m : Type → Type} [Monad m] (files : Files m) (path : Path) : Run m Bool := do
  match ← (files.kind? path : m _) with
  | .ok kind? => return kind?.isSome
  | .error e => fail (.file e)

/-- The given settings file, or the one in the working directory if it is there. -/
def findConfig {m : Type → Type} [Monad m] (files : Files m) (config? : Option Grammar.OptionValue) :
    Run m ProjectConfig := do
  match config? with
  | some none => fail .lostArgument
  | some (some config) => loadConfig files (.ofText config)
  | none =>
    let path := (← (files.here : m _)).child ProjectConfig.fileName
    if ← isThere files path then loadConfig files path else return .standard

/-! ## Writing -/

def writeFile {m : Type → Type} [Monad m] (files : Files m) (path : Path) (text : String) : Run m Unit := do
  match ← (files.write path text : m _) with
  | .ok _ => return ()
  | .error e => fail (.file e)

/-- Prints a document, or writes it where it is wanted. -/
def emit {m : Type → Type} [Monad m] (files : Files m) (t : Topology)
    (output? : Option Grammar.OptionValue) : Run m Nat := do
  match output? with
  | none => write t.toDocumentText
  | some none => fail .lostArgument
  | some (some output) =>
    match ← (files.write (.ofText output) t.toDocumentText : m _) with
    | .ok _ => printError ("Wrote topology document to '" ++ output ++ "'.")
    | .error e => refuseFile e (.unwritable output e)
  return 0

/-! ## Commands -/

def runInit {m : Type → Type} [Monad m] (files : Files m) (directory : String) : Run m Nat := do
  let given := Path.ofText directory
  let path := Path.absolute (← (files.here : m _)) given
  if given.hasNull then fail (.file ⟨.nullInName, given⟩)
  if !(← isThere files path) then refuse (.directoryMissing path)
  let config := path.child ProjectConfig.fileName
  if ← isThere files config then refuse (.projectThere config)
  writeFile files config ProjectConfig.standardText
  printLine ("Initialized AppHostGen project at '" ++ config.toText ++ "'.")
  return 0

def severityTitle : Validation.Severity → String
  | .error => "Error"
  | .warning => "Warning"
  | .info => "Info"

def printIssue {m : Type → Type} [Monad m] (i : Validation.Issue) : Run m Unit :=
  let line := severityTitle i.severity ++ " [" ++ i.family.name ++ "]: " ++ i.message
  if i.severity = .error then printError line else printLine line

def runCheck {m : Type → Type} [Monad m] (files : Files m) (topology : String) : Run m Nat := do
  let t ← loadTopology files (.ofText topology)
  match t.validate .standard with
  | .error e => fail (.numeral e)
  | .ok report =>
    report.issues.forM printIssue
    if report.issues.isEmpty then
      printLine "No issues found."
      return 0
    else
      printLine (toString (report.count .error) ++ " error(s), " ++ toString (report.count .warning)
        ++ " warning(s), " ++ toString (report.count .info) ++ " info(s).")
      return if report.isValid then 0 else 1

/-- Tells what compiling did. -/
def debugCompile {m : Type → Type} [Monad m] (r : Registry) (t : Topology) (a : Artifacts) : Run m Unit := do
  if a.isBlocked then
    debug "compiler.build" ("Rendering blocked by " ++ toString a.blockingErrors.length ++ " error(s)")
  else
    let ordered := t.sequence.ordered
    debug "compiler.sequencer" ("Sequenced " ++ toString ordered.length ++ " of "
      ++ toString t.instances.length ++ " instance(s)")
    for i in ordered do
      if i.name ≠ "" ∧ (r.find? i.resourceType).isNone then
        debug "compiler.renderer" ("Skipping " ++ i.id ++ ": unknown resource type "
          ++ Text.quoted i.resourceType)
    debug "compiler.renderer" ("Rendered " ++ toString (ordered.filterMap (AppHost.declare? r t)).length
      ++ " declaration(s) with " ++ toString a.requiredPackages.length ++ " package(s)")

def runGenerate {m : Type → Type} [Monad m] (files : Files m) (topology : String)
    (output? config? : Option Grammar.OptionValue) : Run m Nat := do
  let config ← findConfig files config?
  let t ← loadTopology files (.ofText topology)
  let directory := Path.ofText ((output?.join.filter (· ≠ "")).getD config.outputDirectory)
  match ← (files.makeDirectories directory : m _) with
  | .error e => refuseFile e (.outputDirectory directory e)
  | .ok _ => pure ()
  match t.compile .standard config.options with
  | .error e => fail (.compile e)
  | .ok a =>
    debugCompile .standard t a
    writeFile files (directory.child "AppHost.cs") a.appHost
    if a.isBlocked then refuse (.blocked a.blockingErrors)
    writeFile files (directory.child "appsettings.json") a.settings
    writeFile files (directory.child "Dockerfile") a.buildFile
    writeFile files (directory.child "manifest.json") a.manifest
    printLine ("Generated " ++ toString t.instances.length ++ " resource(s) into '" ++ directory.toText
      ++ "'.")
    if !a.requiredPackages.isEmpty then
      printLine "Required packages:"
      a.requiredPackages.forM fun package => printLine ("  " ++ package)
    printLine "Deployment commands:"
    a.deploymentCommands.forM fun command => printLine ("  " ++ command)
    return 0

/-- Tells what an import found. -/
def debugImport {m : Type → Type} [Monad m] (text : String) (t : Topology) : Format → Run m Unit
  | .appHost =>
    debug "parser.apphost" ("AppHost import: " ++ toString t.instances.length ++ " instance(s), "
      ++ toString t.connections.length ++ " connection(s)")
  | .compose =>
    debug "parser.compose" ("Compose import: " ++ toString t.instances.length ++ " service(s), "
      ++ toString t.connections.length ++ " connection(s)")
  | .dockerfile =>
    let b := Dockerfile.Build.ofText text
    debug "parser.dockerfile" ("Dockerfile import: base image " ++ b.baseImage.getD "None" ++ ", "
      ++ toString b.ports.length ++ " port(s)")

def runImport {m : Type → Type} [Monad m] (files : Files m) (format : Format) (file : String)
    (output? : Option Grammar.OptionValue) : Run m Nat := do
  let path := Path.ofText file
  match ← readText files path with
  | .error e => refuseFile e (.unreadable path e)
  | .ok text =>
    match format.read .standard [] path.name text with
    | .error e => fail (.numeral e)
    | .ok imported =>
      let t := imported.topology
      debugImport text t format
      imported.warnings.forM fun warning => printError ("Warning: " ++ warning)
      printError ("Imported " ++ toString t.instances.length ++ " resource(s) and "
        ++ toString t.connections.length ++ " connection(s) from '" ++ path.toText ++ "'.")
      emit files t output?

/-- A text with spaces behind it to a width of 22. -/
def column (s : String) : String :=
  s ++ String.ofList (List.replicate (22 - s.length) ' ')

def runTemplates {m : Type → Type} [Monad m] : Run m Nat := do
  for t in Template.all do
    printLine (column t.id ++ " " ++ t.name ++ " [" ++ t.category ++ "]")
    printLine (column "" ++ " " ++ t.description)
  return 0

def runNew {m : Type → Type} [Monad m] (files : Files m) (template : String)
    (output? : Option Grammar.OptionValue) : Run m Nat := do
  match Template.find template with
  | .ok t => emit files t.topology output?
  | .error e => refuse (.template e)

def Request.run {m : Type → Type} [Monad m] (files : Files m) : Request → Run m Nat
  | init directory => runInit files directory
  | check topology => runCheck files topology
  | generate topology output? config? => runGenerate files topology output? config?
  | importFile format (some file) output? => runImport files format file output?
  | importFile _ none _ => fail .lostArgument
  | templates => runTemplates
  | new template output? => runNew files template output?

/-! ## The program -/

/-- The outcome of arguments that ask for no command. -/
def Halt.outcome : Halt → Outcome
  | help of? => ⟨.exited 0, helpText of?, ""⟩
  | usage of? e => ⟨.exited 2, "", usageText of? e⟩

def run {m : Type → Type} [Monad m] (files : Files m) (arguments : List String) : m Outcome := do
  match Invocation.ofArguments arguments with
  | .error halt => return halt.outcome
  | .ok ⟨_, none⟩ => return (Halt.help none).outcome
  | .ok ⟨isVerbose, some request⟩ =>
    let (result, console) ← (request.run files).run.run ⟨isVerbose, "", ""⟩
    let ending := match result with
      | .ok code => .exited code
      | .error ending => ending
    return ⟨ending, console.out, console.err⟩

end Command
end HostTopology
