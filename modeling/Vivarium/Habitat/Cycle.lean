import Vivarium.Config
import Vivarium.Organism.Mutation

/-!
# The cycle of one organism

In each cycle an organism either rests or ticks.  It rests when it is marked as
resting or has no more energy than the floor; resting it only gains energy, and
the mark goes once it has enough to resume.  A tick moves fitness and coherence
by every active gene, derives consciousness from them, costs energy, and may end
with a step of the organism's own evolution.  A tick fails over a value that is
not a finite number; the organism is then healed and pays with consciousness.

Main definitions:

* `Resident`: an organism of a habitat with its mark;
* `feel`, `Organism.tick`: the tick, which may fail;
* `Resident.cycle`: the whole cycle and what it came to.
-/

namespace Vivarium

/-- An organism that lives in a habitat, and whether it is resting. -/
structure Resident where
  organism : Organism
  resting : Bool
  deriving Repr, DecidableEq

/-- What a cycle came to. -/
inductive CycleOutcome where
  | ticked (evolved : Bool)
  | failed
  | resting
  | resumed
  deriving Repr, DecidableEq

/-- The fitness and the coherence moved by active genes in order, and whether all
of them had finite contributions.  The first one that has not ends the walk, and
what was moved until then stays moved. -/
def feel (config : HabitatConfig) (fitness coherence : Float) :
    List Gene → Draw (Float × Float × Bool)
  | [] => return (fitness, coherence, true)
  | gene :: rest => do
      if !Number.isFinite gene.contribution then return (fitness, coherence, false)
      else
        let noise ← Draw.symmetric config.coherenceNoise.abs
        feel config (fitness + gene.contribution * config.fitnessStep) (coherence + noise) rest

namespace Organism

/-- The time between two evolutions, in nanoseconds.  A span of more milliseconds
than a signed machine word holds counts as five seconds. -/
def cooldownNanos (cooldown : Span) : Nat :=
  if cooldown.totalNanos ≤ (Number.signBound - 1) * 1000000 then cooldown.totalNanos
  else 5 * 1000000000

/-- The organism is strong enough to evolve and has waited long enough. -/
def isReady (o : Organism) (config : HabitatConfig) (now : Instant) : Bool :=
  config.evolutionEnergyThreshold < o.state.energy &&
    config.evolutionFitnessThreshold < o.state.fitness &&
    cooldownNanos config.evolutionCooldown ≤ now.since o.lastEvolved

/-- The organism with the fitness and the coherence it feels, before they are
brought into the unit interval. -/
def withFeeling (o : Organism) (fitness coherence : Float) : Organism :=
  { o with state := { o.state with fitness := fitness, quantumCoherence := coherence } }

/-- The state after a tick in which an organism felt the given fitness and
coherence.  Consciousness is the mean of both and of the share of active genes. -/
def tickedState (o : Organism) (config : HabitatConfig) (fitness coherence : Float) : State :=
  let fitness := clampUnit fitness
  let coherence := clampUnit coherence
  State.normalize
    { o.state with
      fitness := fitness
      quantumCoherence := coherence
      consciousness := (o.activeFraction + coherence + fitness) / 3.0
      energy := o.state.energy - config.energyCost }

/-- The organism after a tick and whether it evolved; nothing for whether it
evolved if the tick failed. -/
def tick (o : Organism) (config : HabitatConfig) (now : Instant) :
    Draw (Organism × Option Bool) := do
  if !o.state.isFinite then return (o, none)
  else
    let (fitness, coherence, sound) ←
      feel config o.state.fitness o.state.quantumCoherence o.activeGenes
    if !sound then return (o.withFeeling fitness coherence, none)
    else
      let ticked := { o with state := o.tickedState config fitness coherence }
      if ticked.isReady config now then
        let (evolved, outcome) ← ticked.evolve now
        return (evolved, some outcome.isSome)
      else return (ticked, some false)

/-- A gene with its initial contribution in place of one that is not finite. -/
def mendGene (gene : Gene) : Gene :=
  if Number.isFinite gene.contribution then gene
  else { gene with contribution := Gene.initialContribution }

/-- The organism healed after a tick that failed. -/
def recover (o : Organism) (config : HabitatConfig) : Organism :=
  let healed := o.state.heal
  let consciousness := clampUnit (healed.consciousness - config.failurePenalty)
  { o with
    state := { healed with consciousness := consciousness }
    genes := o.genes.map mendGene }

/-- The organism with the energy that a cycle of rest gives. -/
def regenerate (o : Organism) (config : HabitatConfig) : Organism :=
  let energy := clampUnit (o.state.energy + config.regenerationRate)
  { o with state := { o.state with energy := energy } }

end Organism

namespace Resident

/-- The organism rests in this cycle. -/
def needsRest (r : Resident) (config : HabitatConfig) : Bool :=
  r.resting || r.organism.state.energy ≤ config.energyFloor

/-- The resident after a cycle of rest. -/
def rest (r : Resident) (config : HabitatConfig) : Resident × CycleOutcome :=
  let organism := r.organism.regenerate config
  if config.resumeEnergy ≤ organism.state.energy then (⟨organism, false⟩, .resumed)
  else (⟨organism, true⟩, .resting)

/-- The resident after one cycle, and what the cycle came to. -/
def cycle (r : Resident) (config : HabitatConfig) (now : Instant) :
    Draw (Resident × CycleOutcome) := do
  if r.needsRest config then return r.rest config
  else
    let (organism, evolved) ← r.organism.tick config now
    match evolved with
    | some evolved => return (⟨organism, r.resting⟩, .ticked evolved)
    | none => return (⟨organism.recover config, r.resting⟩, .failed)

end Resident

end Vivarium
