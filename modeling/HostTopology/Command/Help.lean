import HostTopology.Command.Grammar
import HostTopology.Import.Format

/-!
# Help — the commands, their arguments and their help texts

The first line of a help text is the usage line that comes before an error message too.
-/

namespace HostTopology
namespace Command

inductive Name where
  | init
  | check
  | generate
  | importFile
  | templates
  | new
deriving DecidableEq, Repr

namespace Name

def all : List Name :=
  [init, check, generate, importFile, templates, new]

def text : Name → String
  | init => "init"
  | check => "check"
  | generate => "generate"
  | importFile => "import"
  | templates => "templates"
  | new => "new"

def ofText? (s : String) : Option Name :=
  all.find? fun n => n.text = s

end Name

/-! ## Arguments -/

def verboseOption : OptionSpec :=
  ⟨["-v", "--verbose"], false⟩

def outputOption : OptionSpec :=
  ⟨["-o", "--output"], true⟩

def configOption : OptionSpec :=
  ⟨["--config"], true⟩

def required (name : String) : PositionalSpec :=
  ⟨name, true, []⟩

/-- The options before the name of a command. -/
def outerGrammar : Grammar :=
  ⟨[helpOption, verboseOption], []⟩

def Name.grammar : Name → Grammar
  | init => ⟨[helpOption], [⟨"directory", false, []⟩]⟩
  | check => ⟨[helpOption], [required "topology"]⟩
  | generate => ⟨[helpOption, outputOption, configOption], [required "topology"]⟩
  | importFile =>
    ⟨[helpOption, outputOption], [⟨"format", true, Format.all.map Format.name⟩, required "file"]⟩
  | templates => ⟨[helpOption], []⟩
  | new => ⟨[helpOption, outputOption], [required "template"]⟩

/-! ## Texts -/

def program : String := "apphostgen"

def overviewLines : List String := [
  "usage: apphostgen [-h] [-v] COMMAND ...",
  "",
  "AppHostGen: compile resource topologies into Aspire AppHost code",
  "",
  "positional arguments:",
  "  COMMAND",
  "    init         Initialize a new AppHostGen project",
  "    check        Validate a topology document",
  "    generate     Generate the AppHost and companion files",
  "    import       Reconstruct a topology from existing files",
  "    templates    List the built-in templates",
  "    new          Create a topology document from a template",
  "",
  "options:",
  "  -h, --help     show this help message and exit",
  "  -v, --verbose  Enable debug logging"]

def initLines : List String := [
  "usage: apphostgen init [-h] [directory]",
  "",
  "Write a default .apphostgen.yaml into a directory.",
  "",
  "positional arguments:",
  "  directory   Directory to initialize the project in (default: current",
  "              directory)",
  "",
  "options:",
  "  -h, --help  show this help message and exit"]

def checkLines : List String := [
  "usage: apphostgen check [-h] topology",
  "",
  "Run all validation rules over a topology document and report the issues.",
  "",
  "positional arguments:",
  "  topology    Path to the topology document",
  "",
  "options:",
  "  -h, --help  show this help message and exit"]

def generateLines : List String := [
  "usage: apphostgen generate [-h] [-o OUTPUT] [--config CONFIG] topology",
  "",
  "Compile a topology document into AppHost.cs, appsettings.json, a Dockerfile",
  "and a container apps manifest.",
  "",
  "positional arguments:",
  "  topology              Path to the topology document",
  "",
  "options:",
  "  -h, --help            show this help message and exit",
  "  -o OUTPUT, --output OUTPUT",
  "                        Output directory (default: the configured output-",
  "                        directory)",
  "  --config CONFIG       Project configuration file (default:",
  "                        ./.apphostgen.yaml if present)"]

def importFileLines : List String := [
  "usage: apphostgen import [-h] [-o OUTPUT] \x7bapphost,compose,dockerfile\x7d file",
  "",
  "Reconstruct a topology document from an AppHost, compose file or Dockerfile.",
  "",
  "positional arguments:",
  "  \x7bapphost,compose,dockerfile\x7d",
  "                        Input format",
  "  file                  File to import",
  "",
  "options:",
  "  -h, --help            show this help message and exit",
  "  -o OUTPUT, --output OUTPUT",
  "                        Write the topology document here instead of standard",
  "                        output"]

def templatesLines : List String := [
  "usage: apphostgen templates [-h]",
  "",
  "List the built-in starter topologies.",
  "",
  "options:",
  "  -h, --help  show this help message and exit"]

def newLines : List String := [
  "usage: apphostgen new [-h] [-o OUTPUT] template",
  "",
  "Write the topology document of a built-in template.",
  "",
  "positional arguments:",
  "  template              Template id (see 'apphostgen templates')",
  "",
  "options:",
  "  -h, --help            show this help message and exit",
  "  -o OUTPUT, --output OUTPUT",
  "                        Write the topology document here instead of standard",
  "                        output"]

/-- The help text of a command, or of the program. -/
def helpLines : Option Name → List String
  | none => overviewLines
  | some .init => initLines
  | some .check => checkLines
  | some .generate => generateLines
  | some .importFile => importFileLines
  | some .templates => templatesLines
  | some .new => newLines

def helpText (of? : Option Name) : String :=
  String.join ((helpLines of?).map (· ++ "\n"))

def usageLine (of? : Option Name) : String :=
  (helpLines of?).headD ""

/-- The program with the name of the command. -/
def programName : Option Name → String
  | none => program
  | some n => program ++ " " ++ n.text

/-- What is printed about an error in the arguments. -/
def usageText (of? : Option Name) (e : UsageError) : String :=
  usageLine of? ++ "\n" ++ programName of? ++ ": error: " ++ e.message ++ "\n"

end Command
end HostTopology
