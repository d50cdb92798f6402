import Vivarium.Proofs.Ecosystem.Atomicity
import Vivarium.Proofs.Ecosystem.Effect

/-!
# The course of an ecosystem

An ecosystem serves requests one after the other, some in vain.  A course is the list of
all requests with their answers and the ecosystem they have led to, so that what a run came
to can be compared with what was asked and answered in it.

The requests are served in place.  One that fails counts as part of the course and leaves
the ecosystem as it was, which is a fact about the programs and not an assumption.

Main definitions:

* `Exchange`: a request with its answer;
* `Ecosystem.Course`: a run;
* `Ecosystem.asked`, `Ecosystem.having`: what comes of one request.

Main statements:

* `Ecosystem.of_served`: an exchange has its effect, or none;
* `Ecosystem.Course.keeps`: what every effect keeps holds in the end.
-/

namespace Vivarium

/-- A request to an ecosystem at some time, and what was answered. -/
structure Exchange where
  Answer : Type
  now : Instant
  request : Request Answer
  answer : Except EcosystemFault Answer

namespace Exchange

/-- The exchange of a request that succeeded. -/
def granted {α : Type} (now : Instant) (request : Request α) (answer : α) : Exchange :=
  ⟨α, now, request, .ok answer⟩

/-- The organisms that came with a request.  Nobody comes with a request that fails. -/
def entering (x : Exchange) : List Organism :=
  match x.answer with
  | .ok _ => x.request.entering
  | .error _ => []

theorem mem_entering {x : Exchange} {o : Organism} (came : o ∈ x.entering) :
    o ∈ x.request.entering := by
  unfold entering at came
  split at came
  · exact came
  · cases came

end Exchange

namespace Ecosystem

/-- The ecosystem serves a request of a course in place and comes to another one. -/
def Serves (e : Ecosystem) (x : Exchange) (later : Ecosystem) : Prop :=
  Service.outcome (Service.serve x.now x.request) e = (x.answer, later)

/-- What an ecosystem has come to after serving requests, from a first one on. -/
inductive Course (first : Ecosystem) : List Exchange → Ecosystem → Prop where
  | start : Course first [] first
  | step {exchanges : List Exchange} {e later : Ecosystem} {x : Exchange}
      (before : Course first exchanges e) (served : e.Serves x later) :
      Course first (exchanges ++ [x]) later

variable {e later : Ecosystem} {x : Exchange}

/-- A request that succeeds has its effect, and one that fails has none. -/
theorem of_served (served : e.Serves x later) :
    (∃ answer, x.answer = .ok answer ∧ e.Effect x.now x.request answer later) ∨
      ∃ fault, x.answer = .error fault ∧ e.perform x.now x.request = .error fault ∧
        later = e := by
  unfold Serves at served
  rw [Service.serve_outcome] at served
  cases performed : e.perform x.now x.request with
  | error fault =>
      rw [performed] at served
      exact Or.inr ⟨fault, (congrArg Prod.fst served).symm, rfl, (congrArg Prod.snd served).symm⟩
  | ok result =>
      obtain ⟨answer, after⟩ := result
      rw [performed] at served
      obtain rfl : after = later := congrArg Prod.snd served
      exact Or.inl ⟨answer, (congrArg Prod.fst served).symm, effect_of_perform performed⟩

/-- A request with an effect is served and granted. -/
theorem serves_of_effect {α : Type} {now : Instant} {request : Request α} {answer : α}
    (effect : e.Effect now request answer later) :
    e.Serves (Exchange.granted now request answer) later := by
  show Service.outcome (Service.serve now request) e = _
  rw [Service.serve_outcome, perform_of_effect effect]
  rfl

/-- The request with the answer that the ecosystem gives to it. -/
def asked {α : Type} (e : Ecosystem) (now : Instant) (request : Request α) : Exchange :=
  ⟨α, now, request, (Service.outcome (Service.serve now request) e).1⟩

/-- The ecosystem after it has served the request. -/
def having {α : Type} (e : Ecosystem) (now : Instant) (request : Request α) : Ecosystem :=
  (Service.outcome (Service.serve now request) e).2

theorem serves_asked {α : Type} (e : Ecosystem) (now : Instant) (request : Request α) :
    e.Serves (e.asked now request) (e.having now request) := rfl

namespace Course

variable {first : Ecosystem} {exchanges : List Exchange}

/-- What holds at first, and what every effect of a fitting request keeps, holds after a
course of fitting requests. -/
theorem keeps (Holds : Ecosystem → Prop) {Fits : Exchange → Prop}
    (course : Course first exchanges e) (fits : ∀ x ∈ exchanges, Fits x) (begins : Holds first)
    (kept : ∀ {e later : Ecosystem} {x : Exchange} {answer : x.Answer}, Holds e → Fits x →
      x.answer = .ok answer → e.Effect x.now x.request answer later → Holds later) :
    Holds e := by
  induction course with
  | start => exact begins
  | step before served inductionHypothesis =>
      obtain ⟨fitting, last⟩ := List.forall_mem_append.mp fits
      have held := inductionHypothesis fitting
      rcases of_served served with ⟨answer, granted, effect⟩ | ⟨fault, -, -, rfl⟩
      · exact kept held (List.forall_mem_singleton.mp last) granted effect
      · exact held

/-- What is asked of a course was served at some moment of it. -/
theorem exists_served (course : Course first exchanges e) (asked : x ∈ exchanges) :
    ∃ past rest between after, exchanges = past ++ x :: rest ∧ Course first past between ∧
      between.Serves x after := by
  induction course with
  | start => cases asked
  | @step exchanges between after y before served inductionHypothesis =>
      rcases List.mem_append.mp asked with earlier | last
      · obtain ⟨past, rest, between, after, rfl, started, served⟩ := inductionHypothesis earlier
        exact ⟨past, rest ++ [y], between, after, List.append_assoc _ _ _, started, served⟩
      · obtain rfl := List.mem_singleton.mp last
        exact ⟨exchanges, [], between, after, rfl, before, served⟩

end Course

end Ecosystem

end Vivarium
