import Coupling.CommandLine.Arguments

/-!
# Help

The help on the program and on its subcommands: what it does, how it is called, and its options in
two columns, of which the second starts two blanks after the widest entry of the first.
-/

namespace Coupling.CommandLine

def Subcommand.about : Subcommand → String
  | .generate => "Compile the couplings and write namcouple, CF table and manifest"
  | .check => "Compile the couplings without writing and print a field summary"
  | .version => "Print version information"

def helpColumns (rows : List (String × String)) : String :=
  let width := (rows.map fun row => row.1.length).foldl max 0
  String.join (rows.map fun (left, right) =>
    let gap := String.ofList (List.replicate (width - left.length + 2) ' ')
    s!"  {left}{gap}{right}\n")

def verboseRow : String × String := ("-v, --verbose...", "Raise the log level (repeatable)")

def helpRow : String × String := ("-h, --help", "Print help")

def contextRow : String × String := ("    --run-info <RUN_INFO>", "YAML run context")

def couplingsRow : String × String :=
  ("    --couplings <COUPLINGS>", "YAML file listing the coupling requests")

namespace Subcommand

/-- The options of a subcommand in the order of its help. -/
def rows : Subcommand → List (String × String)
  | .generate =>
    [contextRow, verboseRow, couplingsRow,
     ("    --out <OUT>",
       "Directory receiving namcouple, cf_name_table.txt and the manifest [default: .]"),
     ("    --no-regenerate", "Skip the regeneration program even when one is configured"),
     helpRow]
  | .check => [contextRow, verboseRow, couplingsRow, helpRow]
  | .version =>
    [("    --long", "Emit the manifest schema version alongside the crate version"),
     verboseRow, helpRow]

def usage : Subcommand → String
  | .version => "Usage: cpl-gen version [OPTIONS]"
  | s =>
    let name := s.name
    s!"Usage: cpl-gen {name} [OPTIONS] --run-info <RUN_INFO> --couplings <COUPLINGS>"

def help (s : Subcommand) : String :=
  let about := s.about
  let usage := s.usage
  s!"{about}\n\n{usage}\n\nOptions:\n" ++ helpColumns s.rows

end Subcommand

def usage : String := "Usage: cpl-gen [OPTIONS] <COMMAND>"

def help : String :=
  let commands := Subcommand.all.map fun s => (s.name, s.about)
  s!"Namcouple coupling-configuration compiler\n\n{usage}\n\nCommands:\n" ++
    helpColumns (commands ++
      [("help", "Print this message or the help of the given subcommand(s)")]) ++
    "\nOptions:\n" ++ helpColumns [verboseRow, helpRow]

def helpOn : Option Subcommand → String
  | some s => s.help
  | none => help

end Coupling.CommandLine
