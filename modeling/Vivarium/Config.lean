import Vivarium.Breeding.Event
import Vivarium.Number.Layout
import Vivarium.Time.Span

/-!
# Configuration

Every constant of the habitat and of the nursery is part of a configuration.
Each field has a standard value; a configuration is used only after all fields
were found to be in their range.  Two variables of the environment may override
the seeds and the level of the log.

Main definitions:

* `HabitatConfig`, `NurseryConfig`, `LoggingConfig`, `Config`: the fields with
  their standard values;
* `Config.fault?`: the first field that is out of range;
* `Config.withSeed`, `Config.override`: seeds and the environment.
-/

namespace Vivarium

/-- The constants of a habitat. -/
structure HabitatConfig where
  tickInterval : Span
  fitnessStep : Float
  coherenceNoise : Float
  energyCost : Float
  evolutionEnergyThreshold : Float
  evolutionFitnessThreshold : Float
  evolutionCooldown : Span
  failurePenalty : Float
  energyFloor : Float
  regenerationRate : Float
  resumeEnergy : Float
  seed : Option Nat
  deriving Repr, DecidableEq

/-- The constants of a nursery. -/
structure NurseryConfig where
  cycleInterval : Span
  defaultStrategy : String
  defaultLandscape : String
  tournamentSize : Nat
  geneEliteBias : Float
  speciesBucketWidth : Float
  extinctionFloor : Float
  extinctionFraction : Float
  breakthroughDelta : Float
  historyCapacity : Nat
  seed : Option Nat
  deriving Repr, DecidableEq

/-- The formats of the log. -/
inductive LogFormat where
  | json
  | pretty
  | compact
  deriving Repr, DecidableEq

namespace LogFormat

/-- The name of a format. -/
def name : LogFormat → String
  | .json => "json"
  | .pretty => "pretty"
  | .compact => "compact"

/-- All formats. -/
def all : List LogFormat := [.json, .pretty, .compact]

end LogFormat

/-- How the program logs. -/
structure LoggingConfig where
  level : String
  format : LogFormat
  deriving Repr, DecidableEq

/-- The whole configuration. -/
structure Config where
  habitat : HabitatConfig
  nursery : NurseryConfig
  logging : LoggingConfig
  deriving Repr, DecidableEq

/-- The constants of a habitat for which none are chosen. -/
def HabitatConfig.standard : HabitatConfig :=
  { tickInterval := Span.ofMillis 100
    fitnessStep := 0.05
    coherenceNoise := 0.02
    energyCost := 0.002
    evolutionEnergyThreshold := 0.5
    evolutionFitnessThreshold := 0.7
    evolutionCooldown := Span.ofSeconds 5
    failurePenalty := 0.1
    energyFloor := 0.1
    regenerationRate := 0.01
    resumeEnergy := 0.3
    seed := none }

/-- The constants of a nursery for which none are chosen. -/
def NurseryConfig.standard : NurseryConfig :=
  { cycleInterval := Span.ofSeconds 5
    defaultStrategy := "balanced"
    defaultLandscape := "default"
    tournamentSize := 5
    geneEliteBias := 0.8
    speciesBucketWidth := 0.1
    extinctionFloor := 0.2
    extinctionFraction := 0.8
    breakthroughDelta := 0.05
    historyCapacity := EventLog.standardCapacity
    seed := none }

/-- The log of a program for which none is chosen. -/
def LoggingConfig.standard : LoggingConfig := ⟨"info", .compact⟩

namespace Config

/-- The configuration of a program for which none is chosen. -/
def standard : Config :=
  ⟨HabitatConfig.standard, NurseryConfig.standard, LoggingConfig.standard⟩

/-! ## Ranges -/

/-- A field that is out of range, with the reason. -/
structure Fault where
  key : String
  reason : String
  deriving Repr, DecidableEq

/-- The complaint about a field. -/
def Fault.message (f : Fault) : String :=
  "Invalid configuration value for " ++ f.key ++ ": " ++ f.reason

/-- The fields that have to lie in the unit interval, in the order in which they
are checked. -/
def unitFields (c : Config) : List (String × Float) :=
  [("runtime.fitness_step", c.habitat.fitnessStep),
   ("runtime.coherence_noise", c.habitat.coherenceNoise),
   ("runtime.energy_cost", c.habitat.energyCost),
   ("runtime.evolution_energy_threshold", c.habitat.evolutionEnergyThreshold),
   ("runtime.evolution_fitness_threshold", c.habitat.evolutionFitnessThreshold),
   ("runtime.failure_penalty", c.habitat.failurePenalty),
   ("runtime.energy_floor", c.habitat.energyFloor),
   ("runtime.regeneration_rate", c.habitat.regenerationRate),
   ("runtime.resume_energy", c.habitat.resumeEnergy),
   ("evolution.gene_elite_bias", c.nursery.geneEliteBias),
   ("evolution.extinction_floor", c.nursery.extinctionFloor),
   ("evolution.extinction_fraction", c.nursery.extinctionFraction)]

/-- The fault of a field outside of the unit interval; a NaN is outside. -/
def unitFault? (field : String × Float) : Option Fault :=
  if 0.0 ≤ field.2 && field.2 ≤ 1.0 then none
  else some ⟨field.1, Number.plain field.2 ++ " is outside [0, 1]"⟩

/-- The first field that is out of range. -/
def fault? (c : Config) : Option Fault :=
  match c.unitFields.findSome? unitFault? with
  | some fault => some fault
  | none =>
      if c.habitat.resumeEnergy < c.habitat.energyFloor then
        some ⟨"runtime.resume_energy", "must not be below runtime.energy_floor"⟩
      else if c.habitat.tickInterval.isZero then
        some ⟨"runtime.tick_interval", "must be greater than zero"⟩
      else if c.nursery.cycleInterval.isZero then
        some ⟨"evolution.cycle_interval", "must be greater than zero"⟩
      else if c.nursery.tournamentSize = 0 then
        some ⟨"evolution.tournament_size", "must be at least 1"⟩
      else if 0.0 < c.nursery.speciesBucketWidth && c.nursery.speciesBucketWidth ≤ 1.0 then none
      else some ⟨"evolution.species_bucket_width", "must be in (0, 1]"⟩

/-- The configuration if all its fields are in range. -/
def checked (c : Config) : Except Fault Config :=
  match c.fault? with
  | some fault => .error fault
  | none => .ok c

/-! ## Seeds and the environment -/

/-- The configuration with a seed for the habitat and the next one, modulo the
word size, for the nursery. -/
def withSeed (c : Config) (seed : Nat) : Config :=
  { c with
    habitat := { c.habitat with seed := some seed }
    nursery := { c.nursery with seed := some ((seed + 1) % Number.wordBound) } }

/-- The variable that overrides the seeds. -/
def seedVariable : String := "DNALANG_SEED"

/-- The variable that overrides the level of the log. -/
def levelVariable : String := "DNALANG_LOG_LEVEL"

/-- What can be wrong with the text of a number that a machine word should hold. -/
inductive WordFault where
  | empty
  | digit
  | overflow
  deriving Repr, DecidableEq

/-- The complaint about such a text. -/
def WordFault.message : WordFault → String
  | .empty => "cannot parse integer from empty string"
  | .digit => "invalid digit found in string"
  | .overflow => "number too large to fit in target type"

/-- A number with one more digit, if it still fits into a machine word. -/
def appendDigit (n : Nat) (c : Char) : Except WordFault Nat :=
  if !c.isDigit then .error .digit
  else
    let longer := n * 10 + (c.toNat - 48)
    if longer < Number.wordBound then .ok longer else .error .overflow

/-- The number of a text: digits, which a plus sign may precede. -/
def readWord (text : String) : Except WordFault Nat :=
  match text.toList with
  | [] => .error .empty
  | '+' :: first :: rest => (first :: rest).foldlM appendDigit 0
  | digits => digits.foldlM appendDigit 0

/-- The configuration with the seeds and the level that the environment sets.  A
seed that is no number leaves everything as it is. -/
def override (c : Config) (seed level : Option String) : Except Fault Config := do
  let seeded ← match seed with
    | none => pure c
    | some text =>
        match readWord text with
        | .ok n => pure (c.withSeed n)
        | .error fault => throw ⟨seedVariable, fault.message⟩
  return match level with
  | none => seeded
  | some level => { seeded with logging := { seeded.logging with level := level } }

end Config

end Vivarium
