import Vivarium.Proofs.Organism.Bounds

/-!
# Recovery

An organism may come with contributions that are no finite numbers, and its first tick fails
over the first active one of them.  Recovering from that it mends all of them, the inactive
ones as well.  A tick that goes well has come by all active contributions, and all that is
written afterwards is clamped: so whoever has ticked once, well or not, is fit for every
later tick.

Inactive genes may stay as they are without doing harm, since nothing ever activates a gene.

Main definitions:

* `Organism.IsFit`, `Organism.IsWhole`: finite contributions of active genes, and of all.

Main statements:

* `Organism.not_isFit_of_yields_tick`: a fit organism does not fail;
* `Organism.isFit_of_yields_tick`, `Organism.isWhole_recover`: after a tick an organism is fit;
* `Organism.isFit_of_yields_evolve`, `Organism.isWhole_of_yields_evolve`: evolution does no
  harm.
-/

namespace Vivarium

open Draw

/-- Whether all genes that are felt have finite contributions is what the walk tells. -/
theorem sound_of_yields_feel {config : HabitatConfig} {genes : List Gene}
    {fitness coherence felt feltCoherence : Float} {sound : Bool}
    (possible : (feel config fitness coherence genes).Yields (felt, feltCoherence, sound)) :
    sound = true ↔ ∀ gene ∈ genes, gene.IsFinite := by
  induction genes generalizing fitness coherence with
  | nil =>
      cases yields_pure.mp possible
      exact ⟨fun _ => List.forall_mem_nil _, fun _ => rfl⟩
  | cons gene rest inductionHypothesis =>
      rw [feel] at possible
      rw [List.forall_mem_cons, Gene.IsFinite]
      split at possible
      · rename_i unsound
        cases yields_pure.mp possible
        rw [Bool.not_eq_true'] at unsound
        rw [unsound]
        exact ⟨fun impossible => absurd impossible Bool.false_ne_true,
          fun finite => absurd finite.1 Bool.false_ne_true⟩
      · rename_i finite
        obtain ⟨noise, -, possible⟩ := yields_bind possible
        rw [inductionHypothesis possible]
        rw [Bool.not_eq_true', Bool.not_eq_false] at finite
        exact ⟨fun others => ⟨finite, others⟩, fun all => all.2⟩

namespace Organism

variable {o ticked evolved : Organism} {config : HabitatConfig} {now : Instant}

/-- The organism is normal, and what its active genes contribute is finite. -/
structure IsFit (o : Organism) : Prop where
  normal : o.IsNormal
  active : ∀ gene ∈ o.activeGenes, gene.IsFinite

/-- The organism is normal, and what its genes contribute is finite. -/
structure IsWhole (o : Organism) : Prop where
  normal : o.IsNormal
  genes : ∀ gene ∈ o.genes, gene.IsFinite

theorem IsWhole.isFit (whole : o.IsWhole) : o.IsFit :=
  ⟨whole.normal, fun gene member => whole.genes gene (List.mem_filter.mp member).1⟩

/-! ## Evolution -/

/-- The genes of an organism that has evolved stem from those it had. -/
theorem stemsFrom_of_yields_evolve {outcome : Option Mutation.Outcome}
    (possible : (o.evolve now).Yields (evolved, outcome)) :
    ∀ gene ∈ evolved.genes, ∃ old ∈ o.genes, gene.StemsFrom old := by
  rcases of_yields_evolve possible with ⟨rfl, -⟩ | ⟨kind, effect, mutated, drawn, rfl, -⟩
  · exact fun gene member => ⟨gene, member, .refl gene⟩
  · have stems := Mutation.stemsFrom_of_yields_apply drawn
    exact stems

theorem isFit_of_yields_evolve {outcome : Option Mutation.Outcome} (fit : o.IsFit)
    (possible : (o.evolve now).Yields (evolved, outcome)) : evolved.IsFit := by
  refine ⟨isNormal_of_yields_evolve fit.normal possible, fun gene member => ?_⟩
  obtain ⟨among, active⟩ := List.mem_filter.mp member
  obtain ⟨old, before, stems⟩ := stemsFrom_of_yields_evolve possible gene among
  have activeBefore : old ∈ o.activeGenes :=
    List.mem_filter.mpr ⟨before, stems.active.symm.trans active⟩
  exact (fit.active old activeBefore).of_stemsFrom stems

theorem isWhole_of_yields_evolve {outcome : Option Mutation.Outcome} (whole : o.IsWhole)
    (possible : (o.evolve now).Yields (evolved, outcome)) : evolved.IsWhole := by
  refine ⟨isNormal_of_yields_evolve whole.normal possible, fun gene member => ?_⟩
  obtain ⟨old, before, stems⟩ := stemsFrom_of_yields_evolve possible gene member
  exact (whole.genes old before).of_stemsFrom stems

/-! ## Ticks -/

theorem IsNormal.isFinite (normal : o.IsNormal) : o.state.isFinite = true := by
  refine List.all_eq_true.mpr fun value member => ?_
  obtain ⟨-, above, below⟩ := normal.vitals value member
  rw [Number.isFinite_eq_parts]
  exact Number.isFinite_of_between above below (by decide) (by decide)

/-- A tick fails only over an active gene. -/
theorem not_isFit_of_yields_tick (possible : (o.tick config now).Yields (ticked, none)) :
    ¬o.IsFit := by
  intro fit
  rw [tick, fit.normal.isFinite] at possible
  obtain ⟨⟨fitness, coherence, sound⟩, drawn, possible⟩ := yields_bind possible
  obtain rfl : sound = true := (sound_of_yields_feel drawn).mpr fit.active
  dsimp only at possible
  rw [if_neg (by decide)] at possible
  split at possible
  · obtain ⟨⟨evolved, outcome⟩, -, possible⟩ := yields_bind possible
    cases yields_pure.mp possible
  · cases yields_pure.mp possible

/-- A tick that goes well has come by all active genes. -/
theorem active_of_yields_tick {evolves : Bool}
    (possible : (o.tick config now).Yields (ticked, some evolves)) :
    ∀ gene ∈ o.activeGenes, gene.IsFinite := by
  unfold tick at possible
  split at possible
  · cases yields_pure.mp possible
  obtain ⟨⟨fitness, coherence, sound⟩, drawn, possible⟩ := yields_bind possible
  cases sound with
  | true => exact (sound_of_yields_feel drawn).mp rfl
  | false => cases yields_pure.mp possible

/-- After a tick that goes well an organism is fit, -/
theorem isFit_of_yields_tick {evolves : Bool}
    (possible : (o.tick config now).Yields (ticked, some evolves)) : ticked.IsFit := by
  have active := active_of_yields_tick possible
  have fed (fitness coherence : Float) : (o.fed config fitness coherence).IsFit :=
    ⟨State.isNormal_normalize _, active⟩
  rcases of_yields_tick possible with
    ⟨impossible, -⟩ | ⟨fitness, coherence, ⟨rfl, -⟩ | ⟨outcome, drawn, -⟩⟩
  · cases impossible
  · exact fed fitness coherence
  · exact isFit_of_yields_evolve (fed fitness coherence) drawn

/-- and whole if it was so before. -/
theorem isWhole_of_yields_tick {evolves : Bool} (whole : o.IsWhole)
    (possible : (o.tick config now).Yields (ticked, some evolves)) : ticked.IsWhole := by
  have fed (fitness coherence : Float) : (o.fed config fitness coherence).IsWhole :=
    ⟨State.isNormal_normalize _, whole.genes⟩
  rcases of_yields_tick possible with
    ⟨impossible, -⟩ | ⟨fitness, coherence, ⟨rfl, -⟩ | ⟨outcome, drawn, -⟩⟩
  · cases impossible
  · exact fed fitness coherence
  · exact isWhole_of_yields_evolve (fed fitness coherence) drawn

/-! ## Rest and recovery -/

theorem isFinite_mendGene (gene : Gene) : (mendGene gene).IsFinite := by
  unfold mendGene
  split
  · rename_i finite
    exact finite
  · exact (by decide : Number.isFinite Gene.initialContribution = true)

/-- Whoever recovers is whole. -/
theorem isWhole_recover (o : Organism) (config : HabitatConfig) : (o.recover config).IsWhole := by
  refine ⟨isNormal_recover o config, fun gene member => ?_⟩
  obtain ⟨old, -, rfl⟩ := List.mem_map.mp member
  exact isFinite_mendGene old

theorem isFit_regenerate (fit : o.IsFit) (config : HabitatConfig) : (o.regenerate config).IsFit :=
  ⟨isNormal_regenerate fit.normal config, fit.active⟩

theorem isWhole_regenerate (whole : o.IsWhole) (config : HabitatConfig) :
    (o.regenerate config).IsWhole :=
  ⟨isNormal_regenerate whole.normal config, whole.genes⟩

end Organism

end Vivarium
