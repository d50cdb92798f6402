/-!
# Operations that may fail

A chain of operations succeeds when each link of it does.  These lemmas take a
successful chain apart, so that what an operation comes to is read off without
going through the faults.

Main definitions:

* `mapOutcome`: the same outcome in other terms.

Main statements:

* `bind_eq_ok`: a chain taken apart;
* `mapError_eq_ok`: success does not depend on how faults are named;
* `bind_mapOutcome`: a chain in other terms.
-/

namespace Vivarium

variable {ε δ α β : Type}

/-- The outcome with another fault, or another result, in place of its own. -/
def mapOutcome (onFault : ε → δ) (onResult : α → β) : Except ε α → Except δ β
  | .error fault => .error (onFault fault)
  | .ok value => .ok (onResult value)

theorem bind_eq_ok {first : Except ε α} {next : α → Except ε β} {result : β} :
    (first >>= next) = .ok result ↔
      ∃ value, first = .ok value ∧ next value = .ok result := by
  cases first with
  | error fault =>
      constructor
      · intro impossible
        cases impossible
      · rintro ⟨value, impossible, -⟩
        cases impossible
  | ok value =>
      constructor
      · intro succeeded
        exact ⟨value, rfl, succeeded⟩
      · rintro ⟨other, same, succeeded⟩
        cases same
        exact succeeded

theorem mapError_eq_ok {outcome : Except ε α} {f : ε → δ} {result : α} :
    outcome.mapError f = .ok result ↔ outcome = .ok result := by
  cases outcome with
  | error fault => constructor <;> intro impossible <;> cases impossible
  | ok value =>
      constructor
      · intro succeeded
        have same : value = result := Except.ok.inj succeeded
        rw [same]
      · rintro ⟨⟩
        rfl

/-- A chain in other terms is a chain of links in other terms. -/
theorem bind_mapOutcome {γ φ : Type} {onFault : ε → δ} {onValue : α → γ} {onResult : β → φ}
    {first : Except ε α} {next : α → Except ε β} {nextToo : γ → Except δ φ}
    (linked : ∀ value, first = .ok value →
      nextToo (onValue value) = mapOutcome onFault onResult (next value)) :
    mapOutcome onFault onValue first >>= nextToo =
      mapOutcome onFault onResult (first >>= next) := by
  cases first with
  | error fault => rfl
  | ok value => exact linked value rfl

end Vivarium
