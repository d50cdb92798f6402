import Vivarium.Breeding.Event
import Vivarium.Breeding.Population

/-!
# Filling a population with clones

A population that is founded with fewer organisms than it should have is filled
with clones of its seeds.  A clone is a uniformly drawn seed, one generation on
and with one mutation.  Randomness and ids do not depend on each other: all
clones are drawn first, and then they are named and admitted in order.

Main definitions:

* `drawClone`, `drawClones`: the clones without ids;
* `enrollClones`: the population with them, and an event for each.
-/

namespace Vivarium

/-- A clone that has no id of its own yet, and the mutation that made it. -/
structure Clone where
  organism : Organism
  outcome : Mutation.Outcome
  deriving Repr, DecidableEq

/-- A seed one generation on, born now. -/
def Organism.successor (parent : Organism) (now : Instant) : Organism :=
  { parent with
    state := { parent.state with generation := parent.state.generation + 1 }
    createdAt := now
    lastEvolutionAt := none }

/-- A clone of a seed. -/
def drawClone (parent : Organism) (now : Instant) : Draw Clone := do
  let kind ← Mutation.Kind.draw Mutation.Kind.breeding
  let (organism, outcome) ← Mutation.apply (parent.successor now) kind
  return ⟨organism, outcome⟩

/-- A number of clones of uniformly drawn seeds; none without seeds. -/
def drawClones (seeds : List Organism) (now : Instant) : Nat → Draw (List Clone)
  | 0 => return []
  | count + 1 => do
      match ← Draw.choose seeds with
      | none => return []
      | some parent =>
          let clone ← drawClone parent now
          let rest ← drawClones seeds now count
          return clone :: rest

/-- The event of a clone under its id. -/
def Clone.event (c : Clone) (id : OrganismId) (population : String) (now : Instant) : Event :=
  ⟨.mutation, now, some id, population, .cloned c.outcome.kind, c.outcome.magnitude⟩

/-- A population with clones admitted under fresh ids, and their events. -/
def enrollClones (p : Population) (now : Instant) (supply : IdSupply) :
    List Clone → Population × List Event × IdSupply
  | [] => (p, [], supply)
  | clone :: rest =>
      let (id, supply) := supply.next
      let (_, p, supply) := p.enroll supply { clone.organism with id := id }
      let event := clone.event id p.name now
      let (p, events, supply) := enrollClones p now supply rest
      (p, event :: events, supply)

end Vivarium
