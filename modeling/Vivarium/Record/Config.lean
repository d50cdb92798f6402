import Vivarium.Config
import Vivarium.Record.Basic

/-!
# Records of configurations

How configurations are kept.  Every field may be missing and then has its
standard value.  Spans of time are kept in their written form.
-/

namespace Vivarium

instance : Record HabitatConfig := .ofLayout <|
  Layout.start HabitatConfig.mk
    |>.fieldOf .standard "tick_interval" (·.tickInterval)
    |>.fieldOf .standard "fitness_step" (·.fitnessStep)
    |>.fieldOf .standard "coherence_noise" (·.coherenceNoise)
    |>.fieldOf .standard "energy_cost" (·.energyCost)
    |>.fieldOf .standard "evolution_energy_threshold" (·.evolutionEnergyThreshold)
    |>.fieldOf .standard "evolution_fitness_threshold" (·.evolutionFitnessThreshold)
    |>.fieldOf .standard "evolution_cooldown" (·.evolutionCooldown)
    |>.fieldOf .standard "failure_penalty" (·.failurePenalty)
    |>.fieldOf .standard "energy_floor" (·.energyFloor)
    |>.fieldOf .standard "regeneration_rate" (·.regenerationRate)
    |>.fieldOf .standard "resume_energy" (·.resumeEnergy)
    |>.fieldOf .standard "seed" (·.seed)

instance : Record NurseryConfig := .ofLayout <|
  Layout.start NurseryConfig.mk
    |>.fieldOf .standard "cycle_interval" (·.cycleInterval)
    |>.fieldOf .standard "default_strategy" (·.defaultStrategy)
    |>.fieldOf .standard "default_landscape" (·.defaultLandscape)
    |>.fieldOf .standard "tournament_size" (·.tournamentSize)
    |>.fieldOf .standard "gene_elite_bias" (·.geneEliteBias)
    |>.fieldOf .standard "species_bucket_width" (·.speciesBucketWidth)
    |>.fieldOf .standard "extinction_floor" (·.extinctionFloor)
    |>.fieldOf .standard "extinction_fraction" (·.extinctionFraction)
    |>.fieldOf .standard "breakthrough_delta" (·.breakthroughDelta)
    |>.fieldOf .standard "history_capacity" (·.historyCapacity)
    |>.fieldOf .standard "seed" (·.seed)

instance : Record LogFormat := .ofNames LogFormat.all LogFormat.name

instance : Record LoggingConfig := .ofLayout <|
  Layout.start LoggingConfig.mk
    |>.fieldOf .standard "level" (·.level)
    |>.fieldOf .standard "format" (·.format)

instance : Record Config := .ofLayout <|
  Layout.start Config.mk
    |>.fieldOf .standard "runtime" (·.habitat)
    |>.fieldOf .standard "evolution" (·.nursery)
    |>.fieldOf .standard "logging" (·.logging)

end Vivarium
