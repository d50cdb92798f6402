import Vivarium.Organism.Basic
import Vivarium.Record.Basic

/-!
# Records of organisms

How organisms are kept: their states, their genes and the rates of their
evolution.
-/

namespace Vivarium

instance : Record State := .ofLayout <|
  Layout.start State.mk
    |>.field "consciousness" (·.consciousness)
    |>.field "quantum_coherence" (·.quantumCoherence)
    |>.field "fitness" (·.fitness)
    |>.field "energy" (·.energy)
    |>.field "mutations" (·.mutations)
    |>.field "generation" (·.generation)

instance Gene.Category.instRecord : Record Gene.Category :=
  .ofNames Gene.Category.all Gene.Category.name

instance : Record Gene := .ofLayout <|
  Layout.start Gene.mk
    |>.field "id" (·.id)
    |>.field "name" (·.name)
    |>.field "category" (·.category)
    |>.field "body" (·.body)
    |>.field "active" (·.active)
    |>.field "fitness_contribution" (·.contribution)

instance : Record Evolvability := .ofLayout <|
  Layout.start Evolvability.mk
    |>.field "fitness_goal" (·.goal)
    |>.field "mutation_rate" (·.mutationRate)
    |>.field "selection_pressure" (·.selectionPressure)

instance : Record Organism := .ofLayout <|
  Layout.start Organism.mk
    |>.field "id" (·.id)
    |>.field "name" (·.name)
    |>.field "state" (·.state)
    |>.field "genes" (·.genes)
    |>.field "workflow" (·.workflow)
    |>.field "evolution" (·.evolution)
    |>.field "created_at" (·.createdAt)
    |>.optional "last_evolution_at" (·.lastEvolutionAt)

end Vivarium
