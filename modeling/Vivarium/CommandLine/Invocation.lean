import Vivarium.CommandLine.Usage
import Vivarium.Config

/-!
# Invocations

What a command line asks for.  The first argument names the command; options and
file names follow in any order.  The value of an option stands behind an equals
sign or is the next argument; behind `--` everything is a file name.  No option
may be given twice.  Whoever asks for help gets it, whatever follows; but what
stands in front has to be right.

Main definitions:

* `Invocation`: what is asked for;
* `Options.split?`: options and file names apart;
* `Invocation.parse?`: the invocation of a list of arguments.
-/

namespace Vivarium.CommandLine

/-! ## Options -/

/-- The options given on a command line, the arguments that are none, and whether
help was asked for behind them. -/
structure Options where
  given : List (String × String)
  files : List String
  wantsHelp : Bool
  deriving Repr, DecidableEq

namespace Options

/-- No options and no files. -/
def none : Options := ⟨[], [], false⟩

/-- The options with one more in front; a name that is given already is refused. -/
def give? (o : Options) (name value : String) : Option Options :=
  if (o.given.lookup name).isSome then .none
  else some { o with given := (name, value) :: o.given }

/-- The options with one more file in front. -/
def file (o : Options) (name : String) : Options := { o with files := name :: o.files }

/-- An option was given. -/
def has (o : Options) (name : String) : Bool := (o.given.lookup name).isSome

/-- The argument looks like an option and cannot be a value. -/
def isMarked (argument : String) : Bool :=
  match argument.toList with
  | '-' :: _ :: _ => true
  | _ => false

/-- The argument asks for help, by name or by letter. -/
def asksHelp (argument : String) : Bool :=
  argument = "--help" || ['-', 'h'].isPrefixOf argument.toList

/-- The argument asks for the version, by name or by letter. -/
def asksVersion (argument : String) : Bool :=
  argument = "--version" || ['-', 'V'].isPrefixOf argument.toList

/-- An option of an argument, with the value that is attached to it: `--name`,
`--name=value`, `-n`, `-nvalue` or `-n=value`. -/
def attached? (specs : List OptionSpec) (argument : String) :
    Option (OptionSpec × Option String) := do
  match argument.toList with
  | '-' :: '-' :: rest =>
      let name := String.ofList (rest.takeWhile (· ≠ '='))
      let spec ← specs.find? fun spec => spec.long = name
      return (spec, match rest.dropWhile (· ≠ '=') with
        | [] => .none
        | _ :: value => some (String.ofList value))
  | '-' :: letter :: rest =>
      let spec ← specs.find? fun spec => spec.letter = some letter
      return (spec, match rest with
        | [] => .none
        | '=' :: value => some (String.ofList value)
        | value => some (String.ofList value))
  | _ => .none

/-- The options and the files of a list of arguments. -/
def split? (specs : List OptionSpec) : List String → Option Options
  | [] => some none
  | argument :: rest =>
      if argument = "--" then some ⟨[], rest, false⟩
      else if asksHelp argument then some { none with wantsHelp := true }
      else if !isMarked argument then (split? specs rest).map (·.file argument)
      else
        match attached? specs argument, rest with
        | .none, _ => .none
        | some (spec, some value), rest =>
            if spec.value.isSome then split? specs rest >>= fun o => o.give? spec.long value
            else .none
        | some (spec, .none), [] =>
            if spec.value.isSome then .none else none.give? spec.long ""
        | some (spec, .none), value :: later =>
            if !spec.value.isSome then
              split? specs (value :: later) >>= fun o => o.give? spec.long ""
            else if isMarked value then .none
            else split? specs later >>= fun o => o.give? spec.long value

/-- The number given for an option, or a standard one.  What is no number is
refused. -/
def number? (o : Options) (name : String) (standard : Option Nat) : Option (Option Nat) :=
  match o.given.lookup name with
  | .none => some standard
  | some text => (Config.readWord text).toOption.map some

end Options

/-! ## Commands -/

/-- What an experiment is asked to do. -/
structure RunRequest where
  files : List String
  ticks : Nat
  cycles : Nat
  population : Option String
  seed : Option Nat
  live : Option Nat
  config : Option String
  deriving Repr, DecidableEq

/-- What a command line asks for. -/
inductive Invocation where
  | greet
  | nameVersion
  | explain (lines : List String)
  | compile (file : String) (withImage asJson : Bool)
  | check (file : String) (outlineOnly : Bool)
  | run (request : RunRequest)
  deriving Repr, DecidableEq

namespace Invocation

/-- The compilation that the options ask for. -/
def ofCompileOptions? (o : Options) : Option Invocation :=
  match o.files, o.wantsHelp with
  | [file], false => some (.compile file (o.has "bytecode") (o.has "json"))
  | [], true | [_], true => some (.explain compileSpec.usage)
  | _, _ => none

/-- The check that the options ask for. -/
def ofCheckOptions? (o : Options) : Option Invocation :=
  match o.files, o.wantsHelp with
  | [file], false => some (.check file (o.has "syntax-only"))
  | [], true | [_], true => some (.explain checkSpec.usage)
  | _, _ => none

/-- The experiment that the options ask for: a hundred ticks and ten cycles, unless
they say otherwise. -/
def ofRunOptions? (o : Options) : Option Invocation := do
  let ticks ← o.number? "ticks" (some 100)
  let cycles ← o.number? "cycles" (some 10)
  let request : RunRequest := {
    files := o.files
    ticks := ticks.getD 0
    cycles := cycles.getD 0
    population := o.given.lookup "population"
    seed := ← o.number? "seed" none
    live := ← o.number? "live" none
    config := o.given.lookup "config" }
  if o.wantsHelp then some (.explain runSpec.usage)
  else if o.files.isEmpty then none
  else some (.run request)

/-- The invocation of a list of arguments that names a command or asks for help or
the version. -/
def ofCommand? (name : String) (rest : List String) : Option Invocation :=
  match name, rest with
  | "compile", rest => Options.split? compileSpec.options rest >>= ofCompileOptions?
  | "check", rest => Options.split? checkSpec.options rest >>= ofCheckOptions?
  | "run", rest => Options.split? runSpec.options rest >>= ofRunOptions?
  | "help", [] => some (.explain programUsage)
  | "help", [topic] => (usageOf? topic).map .explain
  | name, _ =>
      if Options.asksHelp name then some (.explain programUsage)
      else if Options.asksVersion name then some .nameVersion
      else none

/-- The invocation of a list of arguments. -/
def parse? : List String → Option Invocation
  | [] => some .greet
  | name :: rest => ofCommand? name rest

/-- The files that an invocation reads. -/
def paths : Invocation → List String
  | .greet => []
  | .nameVersion => []
  | .explain _ => []
  | .compile file _ _ => [file]
  | .check file _ => [file]
  | .run request => request.config.toList ++ request.files

end Invocation

end Vivarium.CommandLine
