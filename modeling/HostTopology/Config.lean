import HostTopology.Render.Options
import HostTopology.Yaml.Node.Meaning

/-!
# Config — the settings of a project

`ProjectConfig.ofText` reads the settings file of a project. Every setting has a default, and an
empty file gives the defaults. `ConfigError` tells why a file is refused.
-/

namespace HostTopology

structure ProjectConfig where
  options : RenderOptions
  outputDirectory : String
deriving DecidableEq, Repr

inductive ConfigError where
  | malformed (label : String)
  | notMapping (label : String)
  | notText (label key : String)
  | notPositive (label : String)
  | notTruthValue (label : String)
  | unreadable (fault : Yaml.Fault)
deriving DecidableEq, Repr

def ConfigError.message : ConfigError → String
  | malformed label => "Invalid YAML in " ++ label
  | notMapping label => label ++ ": project config must be a YAML mapping"
  | notText label key => label ++ ": '" ++ key ++ "' must be a string"
  | notPositive label => label ++ ": 'indent-size' must be a positive integer"
  | notTruthValue label => label ++ ": 'include-comments' must be a boolean"
  | unreadable (.truthValue content) => content
  | unreadable _ => "unreadable scalar"

namespace ProjectConfig

def fileName : String := ".apphostgen.yaml"

def defaultDirectory : String := "generated"

def standard : ProjectConfig :=
  ⟨.standard, defaultDirectory⟩

/-- The file with all settings at their defaults. -/
def standardText : String :=
  "# AppHostGen Project Configuration\n\n"
    ++ "aspire-version: \"" ++ RenderOptions.standard.aspireVersion ++ "\"\n"
    ++ "indent-size: 4\n"
    ++ "include-comments: false\n"
    ++ "output-directory: " ++ defaultDirectory ++ "\n"

abbrev Entries := List (Value × Value)

/-- A setting, read if it is there. -/
def setting {α : Type} (entries : Entries) (key : String) (default : α)
    (read : Value → Except ConfigError α) : Except ConfigError α :=
  match Value.lookupEntry key entries with
  | some v => read v
  | none => .ok default

def text (label key : String) : Value → Except ConfigError String
  | .text s => .ok s
  | .halves codes => .ok (Text.Points.halves codes).text
  | _ => .error (.notText label key)

def positive (label : String) : Value → Except ConfigError Int
  | .int n => if 1 ≤ n then .ok n else .error (.notPositive label)
  | _ => .error (.notPositive label)

def truthValue (label : String) : Value → Except ConfigError Bool
  | .bool b => .ok b
  | _ => .error (.notTruthValue label)

def ofEntries (label : String) (entries : Entries) : Except ConfigError ProjectConfig := do
  let options := RenderOptions.standard
  let version ← setting entries "aspire-version" options.aspireVersion (text label "aspire-version")
  let indent ← setting entries "indent-size" options.indentSize (positive label)
  let comments ← setting entries "include-comments" options.includeComments (truthValue label)
  let directory ← setting entries "output-directory" defaultDirectory (text label "output-directory")
  .ok ⟨⟨version, indent, comments⟩, directory⟩

def ofText (label content : String) : Except ConfigError ProjectConfig :=
  match (Value.ofYaml content).map Value.opened with
  | .ok .null => .ok standard
  | .ok (.mapping entries) => ofEntries label entries
  | .ok _ => .error (.notMapping label)
  | .error .malformed => .error (.malformed label)
  | .error fault => .error (.unreadable fault)

end ProjectConfig
end HostTopology
