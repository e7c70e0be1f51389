import HostTopology.Command.Help

/-!
# Invocation — what the arguments of the program ask for

`Invocation.ofArguments` reads the options of the program, the name of a command and the arguments
of that command.
-/

namespace HostTopology
namespace Command

inductive Request where
  | init (directory : String)
  | check (topology : String)
  | generate (topology : String) (output? config? : Option Grammar.OptionValue)
  | importFile (format : Format) (file? : Option String) (output? : Option Grammar.OptionValue)
  | templates
  | new (template : String) (output? : Option Grammar.OptionValue)
deriving DecidableEq, Repr

structure Invocation where
  isVerbose : Bool
  request? : Option Request
deriving DecidableEq, Repr

/-- Why there is nothing to carry out. -/
inductive Halt where
  | help (of? : Option Name)
  | usage (of? : Option Name) (e : UsageError)
deriving DecidableEq, Repr

def Halt.ofStop (of? : Option Name) : Stop → Halt
  | .help => .help of?
  | .usage e => .usage of? e

namespace Grammar.Progress

/-- The last value of an option. -/
def value? (p : Progress) (o : OptionSpec) : Option OptionValue :=
  p.values.reverse.lookup o

def positional (p : Progress) (name default : String) : String :=
  (p.positionals.lookup name).getD default

end Grammar.Progress

/-- What a command with these arguments is to do. -/
def Name.request (p : Grammar.Progress) : Name → Request
  | init => .init (p.positional "directory" ".")
  | check => .check (p.positional "topology" "")
  | generate => .generate (p.positional "topology" "") (p.value? outputOption) (p.value? configOption)
  | importFile =>
    .importFile ((Format.ofName? (p.positional "format" "")).getD .appHost) (p.positionals.lookup "file")
      (p.value? outputOption)
  | templates => .templates
  | new => .new (p.positional "template" "") (p.value? outputOption)

def unknownCommand (text : String) : Halt :=
  .usage none (.choice "COMMAND" text (Name.all.map Name.text))

/-- The command that arguments begin with, and what is left over. -/
def Request.ofArguments : List Argument → Except Halt (Option Request × List String)
  | [] => .ok (none, [])
  | [.dashes] => .ok (none, ["--"])
  | command :: arguments =>
    match Name.ofText? command.text with
    | none => .error (unknownCommand command.text)
    | some name => do
      let p ← (name.grammar.parse (arguments.map Argument.text)).mapError (Halt.ofStop (some name))
      return (some (name.request p), p.extras)

def Invocation.ofArguments (arguments : List String) : Except Halt Invocation := do
  let outer := outerGrammar
  let classified ← (outer.classifyAll arguments).mapError (Halt.usage none)
  let (p, rest) ← (outer.readLeading (.start outer) classified).mapError (Halt.ofStop none)
  let (request?, extras) ← Request.ofArguments rest
  match p.extras ++ extras with
  | [] => return ⟨p.flags.contains verboseOption, request?⟩
  | extras => .error (.usage none (.unrecognized extras))

end Command
end HostTopology
