import Coupling.Text.Cut

/-!
# Command-line arguments

The subcommands with their options, and how arguments are read: from first to last, until one is
refused or asks for help. An option with a value is given at most once, as `--name value` or as
`--name=value`, and only the second form takes a value that starts with a dash.
-/

namespace Coupling.CommandLine

/-- What the program can do. -/
inductive Subcommand where
  | generate | check | version
  deriving DecidableEq, Repr

namespace Subcommand

def all : List Subcommand := [.generate, .check, .version]

def name : Subcommand → String
  | .generate => "generate"
  | .check => "check"
  | .version => "version"

def ofName? (word : String) : Option Subcommand := all.find? (·.name = word)

def valued : Subcommand → List String
  | .generate => ["run-info", "couplings", "out"]
  | .check => ["run-info", "couplings"]
  | .version => []

def switches : Subcommand → List String
  | .generate => ["no-regenerate"]
  | .check => []
  | .version => ["long"]

end Subcommand

/-- The files a compilation starts from. -/
structure Inputs where
  context : String
  couplings : String
  deriving DecidableEq, Repr

/-- What the program is asked to do. -/
inductive Command where
  /-- Write a compilation into a directory. -/
  | generate (inputs : Inputs) (directory : String) (regenerate : Bool)
  /-- Compile without writing. -/
  | check (inputs : Inputs)
  /-- Print the version. -/
  | version (long : Bool)
  /-- Print help on the program or on one subcommand. -/
  | help (topic : Option Subcommand)
  deriving DecidableEq, Repr

/-- A command and how much of the log is wanted. -/
structure Invocation where
  command : Command
  verbosity : Nat
  deriving DecidableEq, Repr

/-- The options given so far. -/
structure Given where
  values : List (String × String) := []
  switches : List String := []
  verbosity : Nat := 0
  deriving DecidableEq, Repr

/-- An argument by its form. -/
inductive Argument where
  /-- A word without a dash in front. -/
  | word
  /-- Two dashes, after which no option follows. -/
  | terminator
  /-- A long option, with the value it carries. -/
  | long (name : String) (value : Option String)
  /-- One-letter options. -/
  | short (letters : List Char)

def Argument.of (arg : String) : Argument :=
  match arg.toList with
  | ['-', '-'] => .terminator
  | '-' :: '-' :: rest =>
    match Text.cut? ['='] rest with
    | some (name, value) => .long (String.ofList name) (some (String.ofList value))
    | none => .long (String.ofList rest) none
  | '-' :: c :: rest => .short (c :: rest)
  | _ => .word

/-- What reading an option comes to. -/
inductive Reading where
  | go (given : Given)
  | help
  | refused

namespace Given

/-- Takes the value of an option, which is not empty. -/
def withValue (g : Given) (name value : String) : Reading :=
  if value = "" ∨ (g.values.lookup name).isSome then .refused
  else .go { g with values := g.values ++ [(name, value)] }

def withSwitch (g : Given) (name : String) : Reading :=
  if name ∈ g.switches then .refused else .go { g with switches := g.switches ++ [name] }

def withLetters (g : Given) : List Char → Reading
  | [] => .go g
  | 'v' :: letters => withLetters { g with verbosity := g.verbosity + 1 } letters
  | 'h' :: _ => .help
  | _ => .refused

/-- Takes a long option that needs no further argument; a subcommand adds its own options to
those of the program. -/
def withLong (g : Given) (scope : Option Subcommand) (name : String) (value : Option String) :
    Reading :=
  match value with
  | some value =>
    if (scope.map Subcommand.valued).getD [] |>.contains name then g.withValue name value
    else .refused
  | none =>
    if name = "help" then .help
    else if name = "verbose" then .go { g with verbosity := g.verbosity + 1 }
    else if (scope.map Subcommand.switches).getD [] |>.contains name then g.withSwitch name
    else .refused

/-- The command of a subcommand whose arguments are all read. -/
def command? (g : Given) (s : Subcommand) : Option Command :=
  match s with
  | .generate => do
    let inputs : Inputs := ⟨← g.values.lookup "run-info", ← g.values.lookup "couplings"⟩
    let directory := (g.values.lookup "out").getD "."
    return .generate inputs directory (!g.switches.contains "no-regenerate")
  | .check => return .check ⟨← g.values.lookup "run-info", ← g.values.lookup "couplings"⟩
  | .version => return .version (g.switches.contains "long")

end Given

def readOptions (s : Subcommand) (g : Given) : List String → Option Invocation
  | [] => (g.command? s).map (⟨·, g.verbosity⟩)
  | arg :: rest =>
    match Argument.of arg with
    | .word => none
    | .terminator => if rest = [] then (g.command? s).map (⟨·, g.verbosity⟩) else none
    | .short letters =>
      match g.withLetters letters with
      | .go g => readOptions s g rest
      | .help => some ⟨.help (some s), 0⟩
      | .refused => none
    | .long name value =>
      if value.isNone && s.valued.contains name then
        match rest with
        | [] => none
        | value :: rest =>
          match Argument.of value with
          | .word =>
            match g.withValue name value with
            | .go g => readOptions s g rest
            | _ => none
          | _ => none
      else
        match g.withLong (some s) name value with
        | .go g => readOptions s g rest
        | .help => some ⟨.help (some s), 0⟩
        | .refused => none

def readHelp : List String → Option Invocation
  | [] => some ⟨.help none, 0⟩
  | [topic] => (Subcommand.ofName? topic).map fun s => ⟨.help (some s), 0⟩
  | _ => none

def readArguments (g : Given) : List String → Option Invocation
  | [] => none
  | arg :: rest =>
    match Argument.of arg with
    | .word =>
      if arg = "help" then readHelp rest
      else
        match Subcommand.ofName? arg with
        | some s => readOptions s g rest
        | none => none
    | .terminator => none
    | .short letters =>
      match g.withLetters letters with
      | .go g => readArguments g rest
      | .help => some ⟨.help none, 0⟩
      | .refused => none
    | .long name value =>
      match g.withLong none name value with
      | .go g => readArguments g rest
      | .help => some ⟨.help none, 0⟩
      | .refused => none

/-- What a list of arguments asks for, unless it is refused. -/
def Invocation.read? (args : List String) : Option Invocation := readArguments {} args

end Coupling.CommandLine
