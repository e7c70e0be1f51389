import HostTopology.Text.Blank
import HostTopology.Text.Digit
import HostTopology.Text.Quoted

/-!
# Grammar — the grammar of a command's arguments

A `Grammar` lists the options and the positional arguments of a command. `Grammar.parse` reads
arguments.

* An argument that begins with a dash is an option, unless it is a lone dash, a negative number or
  holds a space; after a double dash there are no options.
* A long option can be shortened as long as no other begins the same. Its value follows it, or an
  equals sign.
* Short flags can be joined, with an option that takes a value at their end; the value follows at once.
  An equals sign after the first of them is passed over.
* Options that are not known, and positional arguments that are too many, are left over.
-/

namespace HostTopology
namespace Command

/-! ## Grammars -/

structure OptionSpec where
  /-- The spellings, short ones first. -/
  spellings : List String
  takesValue : Bool
deriving DecidableEq, Repr

structure PositionalSpec where
  name : String
  isRequired : Bool
  choices : List String
deriving DecidableEq, Repr

structure Grammar where
  options : List OptionSpec
  positionals : List PositionalSpec
deriving DecidableEq, Repr

def helpOption : OptionSpec :=
  ⟨["-h", "--help"], false⟩

/-! ## Errors -/

inductive UsageError where
  | ambiguous (argument : String) (spellings : List String)
  | ignoredValue (option : OptionSpec) (value : String)
  | noValue (option : OptionSpec)
  | choice (name value : String) (choices : List String)
  | required (names : List String)
  | unrecognized (arguments : List String)
deriving DecidableEq, Repr

def OptionSpec.name (o : OptionSpec) : String :=
  "/".intercalate o.spellings

def UsageError.message : UsageError → String
  | ambiguous argument spellings =>
    "ambiguous option: " ++ argument ++ " could match " ++ ", ".intercalate spellings
  | ignoredValue option value =>
    "argument " ++ option.name ++ ": ignored explicit argument " ++ Text.quoted value
  | noValue option => "argument " ++ option.name ++ ": expected one argument"
  | choice name value choices =>
    "argument " ++ name ++ ": invalid choice: " ++ Text.quoted value ++ " (choose from "
      ++ ", ".intercalate (choices.map Text.quoted) ++ ")"
  | required names => "the following arguments are required: " ++ ", ".intercalate names
  | unrecognized arguments => "unrecognized arguments: " ++ " ".intercalate arguments

/-- What ends the reading of arguments early. -/
inductive Stop where
  | help
  | usage (e : UsageError)
deriving DecidableEq, Repr

/-! ## Kinds of arguments -/

/-- What an argument holds besides an option: a value after an equals sign, or characters that
follow a short option at once. -/
inductive Attached where
  | nothing
  | value (text : String)
  | joined (text : List Char)
deriving DecidableEq, Repr

def Attached.ofValue? : Option String → Attached
  | some text => value text
  | none => nothing

/-- An option with its spelling, and what is attached to it. -/
structure Found where
  option : OptionSpec
  spelling : String
  attached : Attached
deriving DecidableEq, Repr

inductive Argument where
  | plain (text : String)
  | dashes
  | option (text : String) (found? : Option Found)
deriving DecidableEq, Repr

namespace Argument

def text : Argument → String
  | plain text => text
  | dashes => "--"
  | option text _ => text

end Argument

namespace Grammar

open Text

/-- Every spelling with its option. -/
def spellings (g : Grammar) : List (String × OptionSpec) :=
  g.options.flatMap fun o => o.spellings.map fun s => (s, o)

def find? (g : Grammar) (spelling : String) : Option OptionSpec :=
  g.spellings.lookup spelling

/-- The text before the first equals sign, and the text after it. -/
def splitValue (argument : String) : String × Option String :=
  match argument.toList.dropWhile (· ≠ '=') with
  | [] => (argument, none)
  | _ :: value => (String.ofList (argument.toList.takeWhile (· ≠ '=')), some (String.ofList value))

/-- The options that an argument can mean, if it is no full spelling. -/
def candidates (g : Grammar) (argument : String) : List Found :=
  match argument.toList with
  | '-' :: '-' :: _ =>
    let (start, value?) := splitValue argument
    (g.spellings.filter fun s => start.toList.isPrefixOf s.1.toList).map fun (s, o) =>
      ⟨o, s, .ofValue? value?⟩
  | '-' :: c :: rest =>
    (g.spellings.filterMap fun (s, o) =>
      if s = String.ofList ['-', c] then some ⟨o, s, .joined rest⟩
      else if argument.toList.isPrefixOf s.toList then some ⟨o, s, .nothing⟩
      else none)
  | _ => []

/-- Digits with at most one point, which has a digit after it, behind a minus sign. -/
def isNegativeNumber (argument : String) : Bool :=
  match dropFinalBreak argument.toList with
  | '-' :: number =>
    match number.dropWhile isDecimal with
    | [] => !number.isEmpty
    | '.' :: fraction => !fraction.isEmpty && fraction.all isDecimal
    | _ => false
  | _ => false

def classify (g : Grammar) (argument : String) : Except UsageError Argument :=
  let (start, value?) := splitValue argument
  if argument.toList.head? ≠ some '-' then .ok (.plain argument)
  else
    match g.find? argument, value?, g.find? start with
    | some o, _, _ => .ok (.option argument (some ⟨o, argument, .nothing⟩))
    | none, value?, known =>
      if argument = "-" then .ok (.plain argument)
      else
        match value?, known with
        | some value, some o => .ok (.option argument (some ⟨o, start, .value value⟩))
        | _, _ =>
          match g.candidates argument with
          | [found] => .ok (.option argument (some found))
          | [] =>
            if isNegativeNumber argument || argument.toList.contains ' ' then .ok (.plain argument)
            else .ok (.option argument none)
          | founds => .error (.ambiguous argument (founds.map Found.spelling))

/-- After a double dash every argument is plain. -/
def classifyAll (g : Grammar) : List String → Except UsageError (List Argument)
  | [] => .ok []
  | "--" :: rest => .ok (.dashes :: rest.map .plain)
  | argument :: rest => do
    let first ← g.classify argument
    return first :: (← g.classifyAll rest)

/-! ## Options -/

/-- The options that one argument stands for: flags, and the option after them with its value. -/
structure Unfolded where
  flags : List OptionSpec
  last : OptionSpec
  value? : Option String
deriving DecidableEq, Repr

def Unfolded.afterFlag (flag : OptionSpec) (u : Unfolded) : Unfolded :=
  { u with flags := flag :: u.flags }

/-- An option with a value. -/
def withValue (o : OptionSpec) (value : String) : Except UsageError Unfolded :=
  if o.takesValue then .ok ⟨[], o, some value⟩ else .error (.ignoredValue o value)

/-- The options in characters that follow a short option. -/
def chain (g : Grammar) (o : OptionSpec) : List Char → Except UsageError Unfolded
  | [] => .ok ⟨[], o, none⟩
  | c :: rest =>
    let text := String.ofList (c :: rest)
    if o.takesValue then withValue o text
    else
      match g.find? (String.ofList ['-', c]) with
      | none => .error (.ignoredValue o text)
      | some next => (g.chain next rest).map (Unfolded.afterFlag o)

/-- A spelling with two dashes. -/
def isLong (spelling : String) : Bool :=
  ['-', '-'].isPrefixOf spelling.toList

def unfold (g : Grammar) (f : Found) : Except UsageError Unfolded :=
  match f.attached with
  | .nothing => .ok ⟨[], f.option, none⟩
  | .value value =>
    if isLong f.spelling || value = "" then withValue f.option value else g.chain f.option value.toList
  | .joined rest => g.chain f.option rest

/-! ## Reading -/

/-- The value of an option; none if it was a double dash, which is taken away from the arguments. -/
abbrev OptionValue := Option String

/-- What has been read so far, with the positional arguments that are still to come. -/
structure Progress where
  flags : List OptionSpec
  values : List (OptionSpec × OptionValue)
  positionals : List (String × String)
  extras : List String
  pending : List PositionalSpec
deriving DecidableEq, Repr

namespace Progress

def start (g : Grammar) : Progress :=
  ⟨[], [], [], [], g.positionals⟩

def addFlags (p : Progress) (flags : List OptionSpec) : Except Stop Progress :=
  if flags.contains helpOption then .error .help
  else .ok { p with flags := p.flags ++ flags }

def addValue (p : Progress) (o : OptionSpec) (value : String) : Progress :=
  { p with values := p.values ++ [(o, if value = "--" then none else some value)] }

def addExtras (p : Progress) (arguments : List Argument) : Progress :=
  { p with extras := p.extras ++ arguments.map Argument.text }

end Progress

/-- A plain argument that may stand between double dashes, and what follows. -/
def takePlain (arguments : List Argument) : Option (List Argument × List Argument) :=
  let (before, rest) := arguments.span (· = .dashes)
  match rest with
  | .plain text :: rest =>
    let (after, rest) := rest.span (· = .dashes)
    some (before ++ .plain text :: after, rest)
  | _ => none

/-- Double dashes without a plain argument. -/
def takeDashes (arguments : List Argument) : List Argument × List Argument :=
  arguments.span (· = .dashes)

/-- The value in arguments from which the first double dash is taken away. There is none if the value
is a double dash itself and no other stands beside it. -/
def valueOf (taken : List Argument) : Option String :=
  ((taken.map Argument.text).erase "--").head?

def addPositional (p : Progress) (spec : PositionalSpec) (taken : List Argument) : Except Stop Progress :=
  match valueOf taken with
  | some value =>
    if spec.choices = [] ∨ value ∈ spec.choices then
      .ok { p with positionals := p.positionals ++ [(spec.name, value)], pending := p.pending.tail }
    else .error (.usage (.choice spec.name value spec.choices))
  | none => .ok { p with pending := p.pending.tail }

/-- Takes as many positional arguments as there are. -/
def takePositionals : List PositionalSpec → Progress → List Argument → Except Stop (Progress × List Argument)
  | [], p, arguments => .ok (p, arguments)
  | spec :: specs, p, arguments =>
    match takePlain arguments with
    | some (taken, rest) => do takePositionals specs (← addPositional p spec taken) rest
    | none =>
      if spec.isRequired then .ok (p, arguments)
      else
        let (taken, rest) := takeDashes arguments
        do takePositionals specs (← addPositional p spec taken) rest

def isOption : Argument → Bool
  | .option .. => true
  | _ => false

/-- Takes an option with its value, if it takes one, from the arguments after it; gives how many of
these it takes. -/
def takeLast (p : Progress) (last : OptionSpec) (value? : Option String) (rest : List Argument) :
    Except Stop (Progress × Nat) :=
  match last.takesValue, value?, rest with
  | false, _, _ => do return (← p.addFlags [last], 0)
  | true, some value, _ => .ok (p.addValue last value, 0)
  | true, none, .plain value :: _ => .ok (p.addValue last value, 1)
  | true, none, _ => .error (.usage (.noValue last))

/-- The last option has no value where it needs one. -/
def lacksValue (u : Unfolded) (rest : List Argument) : Bool :=
  match u.value?, rest with
  | none, .plain _ :: _ => false
  | none, _ => u.last.takesValue
  | some _, _ => false

/-- Reads the options in one argument; gives how many of the arguments after it belong to it. -/
def takeOption (g : Grammar) (p : Progress) (text : String) (found? : Option Found) (rest : List Argument) :
    Except Stop (Progress × Nat) :=
  match found? with
  | none => .ok ({ p with extras := p.extras ++ [text] }, 0)
  | some found => do
    let u ← (g.unfold found).mapError .usage
    if lacksValue u rest then .error (.usage (.noValue u.last))
    else takeLast (← p.addFlags u.flags) u.last u.value? rest

/-- Reads positional arguments and options in turn. Each step passes over an argument. -/
def readFrom (g : Grammar) : Nat → Progress → List Argument → Except Stop Progress
  | 0, p, _ => .ok p
  | steps + 1, p, arguments =>
    if !arguments.any isOption then do
      let (p, rest) ← takePositionals p.pending p arguments
      return p.addExtras rest
    else
      match arguments with
      | .option text found? :: rest => do
        let (p, taken) ← g.takeOption p text found? rest
        g.readFrom steps p (rest.drop taken)
      | _ => do
        let (after, rest) ← takePositionals p.pending p arguments
        if rest.length < arguments.length then
          g.readFrom steps after rest
        else
          g.readFrom steps (after.addExtras (arguments.takeWhile fun a => !isOption a))
            (arguments.dropWhile fun a => !isOption a)

/-- Positional arguments that have to be there and are not. -/
def missing (p : Progress) : List String :=
  (p.pending.filter PositionalSpec.isRequired).map PositionalSpec.name

/-- Reads the options that arguments begin with. None of them takes a value. -/
def readLeading (g : Grammar) : Progress → List Argument → Except Stop (Progress × List Argument)
  | p, .option text found? :: rest => do
    let (p, _) ← g.takeOption p text found? rest
    g.readLeading p rest
  | p, rest => .ok (p, rest)

def parse (g : Grammar) (arguments : List String) : Except Stop Progress := do
  let classified ← (g.classifyAll arguments).mapError .usage
  let p ← g.readFrom (2 * classified.length + 2) (.start g) classified
  if missing p = [] then return p else .error (.usage (.required (missing p)))

end Grammar
end Command
end HostTopology
