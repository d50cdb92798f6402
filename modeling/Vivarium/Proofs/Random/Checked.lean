import Vivarium.Proofs.Random.Draw

/-!
# Draws with checks

A program that draws may rely on what no type says: that a range it draws from is not empty,
or that a list has a member at an index.  The same program with these checks made is one that
can fail.  `Draw.Checks` holds if it never does: whatever the stream is, it comes to a result,
and leaves the stream where the program without checks leaves it.  The draws in it are the same,
with the same bound on the words that they read.  As with draws alone, a chain is taken apart
link by link.

Main definitions:

* `Draw.below?`: a number below a count, unless there is none;
* `Draw.Checks`: no check fails, and the results are related.

Main statements:

* `Checks.pure`, `Checks.bind`: a chain taken apart;
* `checks_lift`, `checks_below?`: a draw without a check, and one from a range that is not empty.
-/

namespace Vivarium

namespace Draw

variable {α β γ δ : Type}

/-- A uniform number below a count.  There is none below zero. -/
def below? (count : Nat) : OptionT Draw Nat :=
  if count = 0 then failure else OptionT.lift (below64 count)

/-- For every stream, the checked program comes to a result that is related to the one of the
other program, and both leave the same stream. -/
def Checks (Related : α → β → Prop) (checked : OptionT Draw α) (draw : Draw β) : Prop :=
  ∀ rng, ∃ result, checked.run.run rng = (some result, (draw.run rng).2) ∧
    Related result (draw.run rng).1

namespace Checks

variable {Related : α → β → Prop} {After : γ → δ → Prop} {checked : OptionT Draw α} {draw : Draw β}

protected theorem pure {result : α} {value : β} (related : Related result value) :
    Checks Related (pure result) (pure value) :=
  fun _ => ⟨result, rfl, related⟩

protected theorem bind {next? : α → OptionT Draw γ} {next : β → Draw δ}
    (checks : Checks Related checked draw)
    (later : ∀ result value, Related result value → Checks After (next? result) (next value)) :
    Checks After (checked >>= next?) (draw >>= next) := by
  intro rng
  obtain ⟨result, run, related⟩ := checks rng
  obtain ⟨last, runLater, after⟩ := later result _ related (draw.run rng).2
  refine ⟨last, ?_, after⟩
  rw [OptionT.run_bind, Option.elimM, StateT.run_bind, run]
  exact runLater

/-- What a program without checks may give is related to something. -/
theorem of_yields {value : β} (checks : Checks Related checked draw)
    (possible : draw.Yields value) : ∃ result, Related result value := by
  obtain ⟨rng, rfl⟩ := possible
  obtain ⟨result, -, related⟩ := checks rng
  exact ⟨result, related⟩

end Checks

theorem checks_lift (draw : Draw α) :
    Checks (fun result value => result = value ∧ draw.Yields value) (OptionT.lift draw) draw :=
  fun rng => ⟨(draw.run rng).1, rfl, rfl, yields_run draw rng⟩

theorem checks_below? {count : Nat} (positive : 0 < count) :
    Checks (fun result value => result = value ∧ value < count) (below? count) (below64 count) := by
  rw [below?, if_neg (Nat.ne_of_gt positive)]
  intro rng
  obtain ⟨result, run, same, possible⟩ := checks_lift (below64 count) rng
  exact ⟨result, run, same, lt_of_yields_below64 positive possible⟩

end Draw

end Vivarium
