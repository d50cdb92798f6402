import Vivarium.CommandLine.Invocation
import Vivarium.CommandLine.Session
import Vivarium.Experiment
import Vivarium.Json.Printer
import Vivarium.Record.Source

/-!
# Commands

The commands of the program: compiling a source, checking a source, and running
an experiment on the organisms of some sources.  Diagnostics go to the error
output, everything else to the standard output.

Main definitions:

* `compile`, `check`, `experiment`: the commands;
* `report`: the summary at the end of an experiment;
* `perform`: the outcome of a list of arguments.
-/

namespace Vivarium.CommandLine

open Session
open Number (fixed)

/-- The version of the program. -/
def version : String := "0.4.0"

/-- The greeting of a program that is asked nothing. -/
def greet : Session Unit := do
  say ("DNALang v" ++ version)
  say "Use --help for available commands"

/-- The name of the program with its version. -/
def nameVersion : Session Unit := say ("dnalang " ++ version)

/-! ## Sources -/

/-- The line about an error in a file. -/
def errorLine (file : String) (d : Source.Diagnostic) : String :=
  "✗ " ++ file ++ ":" ++ toString d.line ++ ":" ++ toString d.column ++ ": " ++
    d.category.name ++ ": " ++ d.message

/-- Writes the findings about a file. -/
def warnAbout (file : String) (errors : List Source.Diagnostic) (warnings : List String) :
    Session Unit := do
  errors.forM fun d => warn (errorLine file d)
  warnings.forM fun text => warn ("⚠ " ++ file ++ ": " ++ text)

/-- The lines about an organism that was compiled. -/
def compiledLines (o : Organism) (m : Source.Measurements) : List String :=
  ["✓ Compiled " ++ o.name ++ " (" ++ o.id.render ++ ") in " ++ fixed 2 m.compileTimeMs ++ " ms",
   "  genes: " ++ toString m.geneCount,
   "  complexity: " ++ fixed 3 m.complexity ++ " (workflow " ++ fixed 3 m.workflowComplexity ++
     ")",
   "  estimated performance: " ++ fixed 3 m.estimatedPerformance]

/-- Compiles a file and shows the result, as JSON or in words. -/
def compile (s : Surroundings) (file : String) (withImage asJson : Bool) : Session Unit := do
  let source ← read s file
  let result := Source.compile source ⟨withImage⟩ (s.clock.reading 0)
  if asJson then say (Record.write result).pretty
  else
    warnAbout file result.errors result.warnings
    result.organism.forM fun o => (compiledLines o result.measurements).forM say
    result.image.forM say
  if !result.success then
    fail ("compilation of " ++ file ++ " failed with " ++ toString result.errors.length ++
      " error(s)") none

/-- Reports what is wrong with a file, on request with its outline only. -/
def check (s : Surroundings) (file : String) (outlineOnly : Bool) : Session Unit := do
  let source ← read s file
  let (errors, warnings) :=
    if outlineOnly then (Source.outlineErrors source, [])
    else
      let result := Source.compile source ⟨false⟩ (s.clock.reading 0)
      (result.errors, result.warnings)
  warnAbout file errors warnings
  if !errors.isEmpty then
    fail (file ++ " has " ++ toString errors.length ++ " error(s)") none
  say ("✓ " ++ file ++ " OK (" ++ toString warnings.length ++ " warning(s))")

/-! ## Experiments -/

/-- The result of an operation on an ecosystem, whose failure ends the session. -/
def demand (result : Except EcosystemFault α) : Session α :=
  match result with
  | .ok a => pure a
  | .error fault =>
      fail (fault.message Uuid.render) <|
        match fault with
        | .habitat _ => none
        | .nursery cause => some (cause.message Uuid.render)

/-- Compiles files, each at the next reading of the clock, and registers their organisms, and
gives their ids. -/
def registerFiles (s : Surroundings) (e : Ecosystem) (turn : Nat) :
    List String → Session (List OrganismId × Ecosystem)
  | [] => return ([], e)
  | file :: rest => do
      let source ← read s file
      let result := Source.compile source ⟨false⟩ (s.clock.reading turn)
      warnAbout file result.errors result.warnings
      match result.organism with
      | none => fail (file ++ " failed to compile") none
      | some o =>
          let (registered, e) ← demand (e.registerAll [o])
          registered.forM fun o => say ("✓ Registered " ++ o.name ++ " (" ++ o.id.render ++ ")")
          let (ids, e) ← registerFiles s e (turn + 1) rest
          return (registered.map (·.id) ++ ids, e)

/-- The instants of the ticks, behind those of the files. -/
def Surroundings.tickTimes (s : Surroundings) (r : RunRequest) : List Instant :=
  s.clock.take r.files.length r.ticks

/-- The instant of the harvest, behind those of the ticks. -/
def Surroundings.harvestTime (s : Surroundings) (r : RunRequest) : Instant :=
  s.clock.reading (r.files.length + r.ticks)

/-- The instants of the cycles, behind that of the harvest. -/
def Surroundings.cycleTimes (s : Surroundings) (r : RunRequest) : List Instant :=
  s.clock.take (r.files.length + r.ticks + 1) r.cycles

/-- Steps an experiment by hand. -/
def stepped (s : Surroundings) (r : RunRequest) (e : Ecosystem) (ids : List OrganismId) :
    Session Ecosystem := do
  let (ticks, e) := e.tickMany (s.tickTimes r)
  say ("✓ Ran " ++ toString ticks ++ " runtime tick(s)")
  match r.population with
  | none => return e
  | some population =>
      let bred ← demand (e.breed ids population (s.harvestTime r) (s.cycleTimes r))
      say ("✓ Ran " ++ toString bred.cycles ++ " evolution cycle(s) on population " ++ population)
      say ("✓ Released " ++ toString bred.released.length ++ " organism(s) back to the runtime")
      return bred.ecosystem

/-- A number of seconds as it is displayed. -/
def secondsText (seconds : Nat) : String :=
  if seconds = 0 then "0ns" else toString seconds ++ "s"

/-- Lets an experiment run for a number of seconds. -/
def lived (s : Surroundings) (r : RunRequest) (seconds : Nat) (e : Ecosystem)
    (ids : List OrganismId) : Session Ecosystem := do
  let e ← match r.population with
    | none => pure e
    | some population => do
        let (_, e) ← demand (e.harvest ids population e.nursery.config.defaultStrategy
          (s.clock.reading r.files.length))
        pure e
  say ("✓ Running live for " ++ secondsText seconds ++ " (Ctrl-C to stop early)")
  wait (Span.ofSeconds seconds)
  let after := e.live (Span.ofSeconds seconds) (s.clock.reading (r.files.length + 1))
  say ("✓ Ran " ++ toString after.ticks ++ " runtime tick(s) and " ++ toString after.cycles ++
    " evolution cycle(s)")
  match r.population with
  | none => return after.ecosystem
  | some population =>
      let (_, e) ← demand (after.ecosystem.releaseAll population)
      return e

/-- The lines about a habitat and its organisms. -/
def habitatLines (h : Habitat) : List String :=
  let m := h.metrics
  let line (o : Organism) : String :=
    "  • " ++ o.name ++ " gen " ++ toString o.state.generation ++ " fitness " ++
      fixed 3 o.state.fitness ++ " consciousness " ++ fixed 3 o.state.consciousness ++
      " energy " ++ fixed 3 o.state.energy
  ["\nRuntime:",
   "  organisms: " ++ toString m.organismCount ++ " (" ++ toString m.restingCount ++ " resting)",
   "  mean fitness: " ++ fixed 3 m.meanFitness,
   "  mean consciousness: " ++ fixed 3 m.meanConsciousness,
   "  mean energy: " ++ fixed 3 m.meanEnergy,
   "  max generation: " ++ toString m.maxGeneration] ++ h.organisms.map line

/-- The lines about a nursery in which a cycle was run, with its latest events. -/
def nurseryLines (n : Nursery) : List String :=
  let line (event : Event) : String :=
    "  • " ++ event.kind.name ++ " " ++ event.population ++ " (" ++
      event.detail.text Uuid.render ++ ")"
  if n.counters.cycles = 0 then []
  else
    ["\nEvolution:", "  cycles: " ++ toString n.counters.cycles,
     "  extinctions: " ++ toString n.counters.extinctions] ++ (n.history.recent 5).map line

/-- The lines at the end of an experiment. -/
def report (e : Ecosystem) : List String := habitatLines e.habitat ++ nurseryLines e.nursery

/-- Runs an experiment. -/
def experiment (s : Surroundings) (r : RunRequest) : Session Unit := do
  let loaded ← loadConfig s r.config
  let c := match r.seed with
    | none => loaded
    | some seed => loaded.withSeed seed
  c.fault?.forM fun fault => fail fault.message none
  let e := Ecosystem.founded c s.habitatSeed s.nurserySeed s.supply
  let (ids, e) ← registerFiles s e 0 r.files
  let e ← match r.live with
    | none => stepped s r e ids
    | some seconds => lived s r seconds e ids
  (report e).forM say

/-! ## Command lines -/

/-- The session of an invocation. -/
def session (s : Surroundings) : Invocation → Session Unit
  | .greet => greet
  | .nameVersion => nameVersion
  | .explain lines => lines.forM say
  | .compile file withImage asJson => compile s file withImage asJson
  | .check file outlineOnly => check s file outlineOnly
  | .run request => experiment s request

/-- The outcome of arguments that ask for nothing. -/
def misused : Outcome :=
  ⟨[.err "error: the arguments are not understood", .err "",
    .err "Commands: compile FILE, check FILE, run FILE..."], 2⟩

/-- The outcome of a list of arguments. -/
def perform (s : Surroundings) (arguments : List String) : Outcome :=
  match Invocation.parse? arguments with
  | some invocation => Outcome.ofSession (session s invocation)
  | none => misused

end Vivarium.CommandLine
