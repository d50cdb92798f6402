/-!
# JSON values

Records leave and enter the program as JSON.  Integers and other numbers are
kept apart, because a field of integer type accepts only the former.  The
members of an object stay in the order of the text, repetitions included, so
that a reader of records can see a field that is given twice.

Main definitions:

* `Json`: a value;
* `Json.record`: an object whose keys are all proper texts;
* `Json.field?`: the last member with a key.
-/

namespace Vivarium

/-- A JSON value.  A literal can be well formed and denote nothing all the same:
a string with half of a surrogate pair, or a number beyond the greatest double.
As a value it is `void`, as a key it is `none`. -/
inductive Json where
  | null
  | bool (value : Bool)
  | int (value : Int)
  | real (value : Float)
  | text (value : String)
  | void
  | array (items : List Json)
  | object (members : List (Option String × Json))
  deriving Inhabited

namespace Json

/-- A natural number as a value. -/
def nat (n : Nat) : Json := .int n

/-- An object with the given members, in this order. -/
def record (members : List (String × Json)) : Json :=
  .object (members.map fun member => (some member.1, member.2))

/-- A value that may be absent. -/
def option (f : α → Json) : Option α → Json
  | some a => f a
  | none => .null

/-- A list of values. -/
def list (f : α → Json) (items : List α) : Json := .array (items.map f)

/-- The value of the last member with the given key. -/
def field? (key : String) : Json → Option Json
  | .object members => (members.reverse.find? fun member => member.1 = some key).map (·.2)
  | _ => none

end Json

end Vivarium
