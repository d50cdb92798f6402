/-!
# Usage

What the program understands: its commands, their options, and how both are
explained.  The explanation of a command has a sentence about it, the form of its
command line, and a table of its files and of its options.

Main definitions:

* `OptionSpec`, `FileSpec`, `CommandSpec`: what a command understands;
* `CommandSpec.usage`: the lines that explain a command;
* `compileSpec`, `checkSpec`, `runSpec`: the commands;
* `programUsage`, `helpUsage`: the lines about the program and about its help.
-/

namespace Vivarium.CommandLine

/-- An option: its long name, its letter if it has one, what its value is called if
it takes one, and what it does. -/
structure OptionSpec where
  long : String
  letter : Option Char
  value : Option String
  about : String
  deriving Repr, DecidableEq

/-- The files that a command reads, and how they are written in the form of a command
line. -/
structure FileSpec where
  shown : String
  about : String
  deriving Repr, DecidableEq

/-- A command: its name, what it does, its files and its options. -/
structure CommandSpec where
  name : String
  about : String
  file : FileSpec
  options : List OptionSpec
  deriving Repr, DecidableEq

/-! ## Tables -/

/-- A text with blanks behind it, up to some width. -/
def padded (width : Nat) (text : String) : String :=
  text ++ String.ofList (List.replicate (width - text.length) ' ')

/-- The lines of a table with two columns, the second one aligned. -/
def tableLines (rows : List (String × String)) : List String :=
  let width := rows.foldl (fun width row => max width row.1.length) 0
  rows.map fun row => "  " ++ padded width row.1 ++ "  " ++ row.2

/-- An option as it is written: its letter, or room for one, its name and its value. -/
def OptionSpec.shown (o : OptionSpec) : String :=
  let letter := match o.letter with
    | some c => String.ofList ['-', c, ',', ' ']
    | none => "    "
  let value := match o.value with
    | some name => " <" ++ name ++ ">"
    | none => ""
  letter ++ "--" ++ o.long ++ value

/-- The lines of a table of options. -/
def optionLines (options : List OptionSpec) : List String :=
  tableLines (options.map fun o => (o.shown, o.about))

/-- The option that asks for an explanation. -/
def helpOption : OptionSpec := ⟨"help", some 'h', none, "Print help"⟩

/-- The option that asks for the version. -/
def versionOption : OptionSpec := ⟨"version", some 'V', none, "Print version"⟩

/-- The lines that explain a command. -/
def CommandSpec.usage (c : CommandSpec) : List String :=
  [c.about, "", "Usage: dnalang " ++ c.name ++ " [OPTIONS] " ++ c.file.shown, "", "Arguments:"] ++
    tableLines [(c.file.shown, c.file.about)] ++
    ["", "Options:"] ++ optionLines (c.options ++ [helpOption])

/-! ## Commands -/

/-- An option that takes no value. -/
def flag (name about : String) : OptionSpec := ⟨name, none, none, about⟩

/-- An option with a value. -/
def valued (name value about : String) : OptionSpec := ⟨name, none, some value, about⟩

/-- The command that compiles. -/
def compileSpec : CommandSpec where
  name := "compile"
  about := "Compile an organism source file"
  file := ⟨"<FILE>", "Organism source file"⟩
  options :=
    [flag "bytecode" "Also emit the JSON bytecode image",
     flag "json" "Print the full compilation result as JSON"]

/-- The command that checks. -/
def checkSpec : CommandSpec where
  name := "check"
  about := "Report diagnostics for an organism source file"
  file := ⟨"<FILE>", "Organism source file"⟩
  options := [flag "syntax-only" "Run the syntax phase only"]

/-- The command that runs experiments. -/
def runSpec : CommandSpec where
  name := "run"
  about := "Compile organisms and drive the runtime"
  file := ⟨"<FILE>...", "Organism source files"⟩
  options :=
    [valued "ticks" "N" "Runtime ticks to step [default: 100]",
     valued "cycles" "N" "Evolution cycles to step when --population is set [default: 10]",
     valued "population" "NAME" "Harvest the organisms into this population and evolve them",
     valued "seed" "N" "Seed for both engines",
     valued "live" "SECS" "Run the schedulers in the background for SECS seconds",
     ⟨"config", some 'c', some "FILE", "TOML configuration file"⟩]

/-- The commands that do some work. -/
def commandSpecs : List CommandSpec := [compileSpec, checkSpec, runSpec]

/-- What the command that explains commands does. -/
def helpAbout : String := "Print this message or the help of the given subcommand(s)"

/-- The lines that explain the program. -/
def programUsage : List String :=
  ["DNALang - compile, run and evolve organisms", "", "Usage: dnalang [COMMAND]", "",
   "Commands:"] ++
    tableLines (commandSpecs.map (fun c => (c.name, c.about)) ++ [("help", helpAbout)]) ++
    ["", "Options:"] ++ optionLines [helpOption, versionOption]

/-- The lines that explain the command that explains commands. -/
def helpUsage : List String :=
  [helpAbout, "", "Usage: dnalang help [COMMAND]...", "", "Arguments:"] ++
    tableLines [("[COMMAND]...", "Print help for the subcommand(s)")]

/-- The lines that explain the command of a name. -/
def usageOf? (name : String) : Option (List String) :=
  if name = "help" then some helpUsage
  else (commandSpecs.find? fun c => c.name = name).map CommandSpec.usage

end Vivarium.CommandLine
