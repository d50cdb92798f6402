import Vivarium.Proofs.Number.Comparison
import Vivarium.Random.Rng

/-!
# What a draw can give

A draw is a function of the random stream, and nothing is known about the words
of a stream.  What can be said of its result is said of every stream at once:
`Draw.Yields d a` holds when some stream makes `d` give `a`.  A chain of draws is
taken apart link by link, so an invariant of a program that draws is proved as if
the program were a relation.

Main definitions:

* `Draw.Yields`: what a draw may give;
* `Draw.times`: one draw made over and over.

Main statements:

* `yields_bind`, `yields_pure`: a chain taken apart;
* `yields_times`: the results of a draw that is repeated;
* `lt_of_yields_below64`, `lt_of_yields_below32`: an index drawn below a positive
  number lies below it, however many words are refused;
* `mem_of_yields_choose`, `yields_choose_nil`: the member of a list that is chosen;
* `isNaN_of_yields_between`: a double that is drawn is a number.
-/

namespace Vivarium

namespace Draw

variable {α β : Type}

/-- Some stream makes the draw give the result. -/
def Yields (draw : Draw α) (result : α) : Prop := ∃ rng, (draw.run rng).1 = result

/-! ## Chains of draws -/

theorem yields_run (draw : Draw α) (rng : Rng) : draw.Yields (draw.run rng).1 := ⟨rng, rfl⟩

theorem yields_pure {value result : α} : Yields (pure value) result ↔ result = value := by
  constructor
  · rintro ⟨rng, rfl⟩
    rfl
  · rintro rfl
    exact ⟨Rng.ofSeed 0, rfl⟩

theorem yields_bind {draw : Draw α} {next : α → Draw β} {result : β}
    (possible : Yields (draw >>= next) result) :
    ∃ value, draw.Yields value ∧ (next value).Yields result := by
  obtain ⟨rng, rfl⟩ := possible
  exact ⟨(draw.run rng).1, yields_run draw rng, yields_run _ (draw.run rng).2⟩

theorem yields_map {draw : Draw α} {f : α → β} {result : β}
    (possible : Yields (f <$> draw) result) :
    ∃ value, draw.Yields value ∧ result = f value := by
  obtain ⟨rng, rfl⟩ := possible
  exact ⟨(draw.run rng).1, yields_run draw rng, rfl⟩

/-! ## Repeated draws -/

/-- The results of a number of draws, one after the other. -/
def times (draw : Draw α) : Nat → Draw (List α)
  | 0 => return []
  | count + 1 => do
      let first ← draw
      let rest ← times draw count
      return first :: rest

theorem run_times_succ (draw : Draw α) (count : Nat) (rng : Rng) :
    (draw.times (count + 1)).run rng =
      let rest := (draw.times count).run (draw.run rng).2
      ((draw.run rng).1 :: rest.1, rest.2) := rfl

theorem yields_times {draw : Draw α} {count : Nat} {results : List α}
    (possible : (draw.times count).Yields results) :
    results.length = count ∧ ∀ result ∈ results, draw.Yields result := by
  induction count generalizing results with
  | zero =>
      rw [yields_pure.mp possible]
      exact ⟨rfl, List.forall_mem_nil _⟩
  | succ count inductionHypothesis =>
      obtain ⟨first, firstDrawn, possible⟩ := yields_bind possible
      obtain ⟨rest, restDrawn, possible⟩ := yields_bind possible
      rw [yields_pure.mp possible]
      obtain ⟨counted, drawn⟩ := inductionHypothesis restDrawn
      exact ⟨congrArg (· + 1) counted, List.forall_mem_cons.mpr ⟨firstDrawn, drawn⟩⟩

/-! ## Uniform indexes -/

/-- A word of `size` bits times a positive count, without its lower `size` bits, is
below the count.  The word that is settled for in the end is no exception. -/
theorem lt_of_yields_accept {size count fuel index : Nat} {next : Draw Nat}
    (positive : 0 < count) (words : ∀ word, next.Yields word → word < Nat.pow 2 size)
    (possible : (accept size count next fuel).Yields index) : index < count := by
  induction fuel with
  | zero =>
      rw [yields_pure.mp possible]
      exact positive
  | succ fuel inductionHypothesis =>
      obtain ⟨word, drawn, possible⟩ := yields_bind possible
      dsimp only at possible
      split at possible
      · rw [yields_pure.mp possible]
        have bounded : word * count < Nat.pow 2 size * count :=
          Nat.mul_lt_mul_of_pos_right (words word drawn) positive
        exact Nat.div_lt_of_lt_mul bounded
      · exact inductionHypothesis possible

theorem lt_of_yields_below64 {count index : Nat} (positive : 0 < count)
    (possible : (below64 count).Yields index) : index < count := by
  refine lt_of_yields_accept positive ?_ possible
  intro word drawn
  obtain ⟨value, -, rfl⟩ := yields_map drawn
  exact value.toNat_lt

theorem lt_of_yields_below32 {count index : Nat} (positive : 0 < count)
    (possible : (below32 count).Yields index) : index < count := by
  refine lt_of_yields_accept positive ?_ possible
  intro word drawn
  obtain ⟨value, -, rfl⟩ := yields_map drawn
  exact value.toNat_lt

/-! ## Members of a list -/

/-- A list with members always has one of them chosen. -/
theorem mem_of_yields_choose {items : List α} {chosen : Option α} (nonempty : items ≠ [])
    (possible : (choose items).Yields chosen) : ∃ item ∈ items, chosen = some item := by
  unfold choose at possible
  rw [if_neg (by simpa using nonempty)] at possible
  obtain ⟨index, drawn, possible⟩ := yields_bind possible
  have bounded := lt_of_yields_below32 (List.length_pos_iff.mpr nonempty) drawn
  refine ⟨items[index], List.getElem_mem bounded, ?_⟩
  rw [yields_pure.mp possible, List.getElem?_eq_getElem bounded]

/-- An empty list has no member chosen. -/
theorem yields_choose_nil {chosen : Option α} (possible : (choose []).Yields chosen) :
    chosen = none :=
  yields_pure.mp possible

/-! ## Doubles -/

/-- A double that is drawn is a number, as a word times a scale that is finite and not zero
is one.  That it lies between the bounds is not needed, and not said here. -/
theorem isNaN_of_yields_between {low high drawn : Float}
    (solid : Number.isSolid (fitScale low high 64 ((high - low) / greatestFraction)) = true)
    (finite : (Number.parts low).isFinite = true) (number : low.isNaN = false)
    (possible : (between low high).Yields drawn) : drawn.isNaN = false := by
  obtain ⟨word, -, possible⟩ := yields_bind possible
  rw [yields_pure.mp possible]
  have fraction : ((word >>> 12).toFloat / 4503599627370496.0).isNaN = false :=
    Number.isNaN_div (Number.isNaN_toFloat _) (by decide +kernel)
  exact Number.isNaN_add (Number.isNaN_mul fraction solid) number (Or.inr finite)

end Draw

end Vivarium
