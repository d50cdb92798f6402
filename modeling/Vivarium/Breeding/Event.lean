import Vivarium.Number.Layout
import Vivarium.Organism.Mutation

/-!
# The history of a nursery

Whatever happens to the populations of a nursery is recorded as an event.  The
log keeps the latest events up to its capacity and counts all that were ever
recorded.

Main definitions:

* `Event.Detail`: what an event says, and its text;
* `Event`: one entry;
* `EventLog`: the log, with `push` and `recent`.
-/

namespace Vivarium

namespace Event

/-- The kinds of event. -/
inductive Kind where
  | mutation
  | crossover
  | selection
  | speciation
  | extinction
  | breakthrough
  deriving Repr, DecidableEq

/-- The name of a kind. -/
def Kind.name : Kind → String
  | .mutation => "Mutation"
  | .crossover => "Crossover"
  | .selection => "Selection"
  | .speciation => "Speciation"
  | .extinction => "Extinction"
  | .breakthrough => "Breakthrough"

/-- All kinds, in the order of their declaration. -/
def Kind.all : List Kind :=
  [.mutation, .crossover, .selection, .speciation, .extinction, .breakthrough]

/-- What an event says. -/
inductive Detail where
  | cloned (kind : Mutation.Kind)
  | crossed (first second : OrganismId)
  | mutated (kind : Mutation.Kind)
  | selected (survivors elites bred : Nat)
  | speciesGrew (before after : Nat)
  | fitnessRose (before after : Float)
  | belowFloor (below total : Nat)
  | note (text : String)
  deriving Repr, DecidableEq

/-- The text of a detail, in which ids are shown by the given names. -/
def Detail.text (nameOf : OrganismId → String) : Detail → String
  | .cloned kind => "seed clone mutated via " ++ kind.name
  | .crossed first second => "offspring of " ++ nameOf first ++ " and " ++ nameOf second
  | .mutated kind => "offspring mutated via " ++ kind.name
  | .selected survivors elites bred =>
      "kept " ++ toString survivors ++ " survivors and " ++ toString elites ++
        " elites, bred " ++ toString bred ++ " offspring"
  | .speciesGrew before after =>
      "species count grew from " ++ toString before ++ " to " ++ toString after
  | .fitnessRose before after =>
      "best fitness rose from " ++ Number.fixed 3 before ++ " to " ++ Number.fixed 3 after
  | .belowFloor below total =>
      toString below ++ " of " ++ toString total ++ " organisms below fitness floor"
  | .note text => text

end Event

/-- An entry of the history. -/
structure Event where
  kind : Event.Kind
  time : Instant
  organism : Option OrganismId
  population : String
  detail : Event.Detail
  impact : Float
  deriving Repr, DecidableEq

/-- The latest events, oldest first, and the number of all events. -/
structure EventLog where
  events : List Event
  capacity : Nat
  total : Nat
  deriving Repr, DecidableEq

namespace EventLog

/-- The capacity of a log for which none is chosen. -/
def standardCapacity : Nat := 1000

/-- The log without events; it holds at least one. -/
def withCapacity (capacity : Nat) : EventLog := ⟨[], max capacity 1, 0⟩

/-- The log with one more event, without the oldest one if it was full. -/
def push (log : EventLog) (event : Event) : EventLog :=
  let kept := if log.events.length = log.capacity then log.events.drop 1 else log.events
  { log with events := kept ++ [event], total := log.total + 1 }

/-- The log with more events, in order. -/
def pushAll (log : EventLog) (events : List Event) : EventLog := events.foldl push log

/-- The number of events that are kept. -/
def size (log : EventLog) : Nat := log.events.length

/-- The latest events, at most the given number, oldest first. -/
def recent (log : EventLog) (limit : Nat) : List Event :=
  log.events.drop (log.events.length - limit)

@[simp]
theorem push_total (log : EventLog) (event : Event) : (log.push event).total = log.total + 1 :=
  rfl

end EventLog

end Vivarium
