import Vivarium.CommandLine.Session

/-!
# Sessions that go well

A session that goes well writes its lines behind those that are there, and comes to a value.
What it writes does not depend on what was written before, so that sessions in a row write their
lines in a row.

Main definitions:

* `Session.Writes`: the session goes well, with these lines and this value.

Main statements:

* `Session.Writes.bind`: sessions in a row;
* `Session.Writes.outcome`: the whole session.
-/

namespace Vivarium.CommandLine

variable {α β : Type} {session : Session α} {lines more : List Line} {value : α}

/-- The session writes these lines behind the others and comes to the value. -/
def Session.Writes (session : Session α) (lines : List Line) (value : α) : Prop :=
  ∀ before, session.run.run before = (.ok value, before ++ lines)

namespace Session.Writes

theorem pure (value : α) : Session.Writes (Pure.pure value) [] value := by
  intro before
  rw [List.append_nil]
  rfl

theorem bind {next : α → Session β} {result : β} (first : session.Writes lines value)
    (second : (next value).Writes more result) :
    (session >>= next).Writes (lines ++ more) result := by
  intro before
  have ran : (session >>= next).run.run before =
      match session.run.run before with
      | (.ok value, written) => (next value).run.run written
      | (.error failure, written) => (.error failure, written) := by
    show (session.run >>= ExceptT.bindCont next).run before = _
    rw [StateT.run_bind]
    show (match session.run.run before with
      | (outcome, written) => (ExceptT.bindCont next outcome).run written) = _
    rcases session.run.run before with ⟨_ | _, written⟩ <;> rfl
  rw [ran, first before, ← List.append_assoc]
  exact second _

theorem say (text : String) : (Session.say text).Writes [.out text] () := fun _ => rfl

theorem warn (text : String) : (Session.warn text).Writes [.err text] () := fun _ => rfl

/-- A session for each of some items. -/
theorem forM {act : β → Session Unit} {written : β → List Line}
    (each : ∀ item, (act item).Writes (written item) ()) (items : List β) :
    Session.Writes (items.forM act) (items.flatMap written) () := by
  induction items with
  | nil => exact pure ()
  | cons item rest inductionHypothesis => exact (each item).bind inductionHypothesis

/-- The whole session. -/
theorem outcome {session : Session Unit} (writes : session.Writes lines ()) :
    Outcome.ofSession session = ⟨lines, 0⟩ := by
  unfold Outcome.ofSession
  rw [writes []]
  rfl

end Session.Writes

end Vivarium.CommandLine
