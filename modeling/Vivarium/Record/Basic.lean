import Vivarium.Directory
import Vivarium.Json.Basic
import Vivarium.Number.Numeral
import Vivarium.Time.Calendar
import Vivarium.Time.Span
import Vivarium.Uuid

/-!
# Records as JSON

The values of the domain are kept as JSON.  How a structure is kept is stated
once, as a *layout*: for each field its name and its projection, in the order of
the constructor's arguments.  Writing and reading both follow from the layout,
so that they cannot disagree about a name.

A reader looks at the fields by name.  Members that the layout does not know are
ignored, but a known one must not be given twice.  A structure may also be given
as an array of its fields in order.  A field that is missing makes the reader
fail, unless the layout says that it is optional or has a default.

Configurations are read from TOML by the same readers.  The two formats agree but
for two points, which make up a *dialect*: whether an array may have more items
than the structure has fields, and what stands for nothing behind the name of a
member of an enumeration.

Main definitions:

* `Dialect`: what depends on the format that is read;
* `Record`: how values of a type are written and read;
* `Record.read?`: the value that a JSON record stands for;
* `Layout`: how a structure is kept, built field by field;
* `Record.ofLayout`, `Record.ofNames`: the record of a structure and of an
  enumeration.
-/

namespace Vivarium

/-- What depends on the format from which records are read. -/
structure Dialect where
  /-- An array may go on behind the last field of a structure. -/
  surplusItems : Bool
  /-- The value stands for nothing. -/
  isNothing : Json → Bool

namespace Dialect

/-- Records in JSON: nothing is null. -/
def json : Dialect := ⟨false, fun | .null => true | _ => false⟩

/-- Records in TOML, which has no null: an empty array or table is nothing. -/
def toml : Dialect := ⟨true, fun | .array [] | .object [] => true | _ => false⟩

end Dialect

/-- How the values of a type are written as JSON and read in some dialect. -/
class Record (α : Type) where
  write : α → Json
  readIn? : Dialect → Json → Option α

namespace Record

/-- The value that a JSON record stands for. -/
def read? [Record α] (j : Json) : Option α := readIn? .json j

/-! ## Simple values -/

instance : Record String where
  write := .text
  readIn?
    | _, .text s => some s
    | _, _ => none

instance : Record Bool where
  write := .bool
  readIn?
    | _, .bool b => some b
    | _, _ => none

/-- A count is an integer that a machine word holds. -/
instance : Record Nat where
  write := .nat
  readIn?
    | _, .int n => if 0 ≤ n && n < Number.wordBound then some n.toNat else none
    | _, _ => none

instance : Record UInt64 where
  write n := .nat n.toNat
  readIn? d j := (readIn? d j).map UInt64.ofNat

/-- A double may be given as an integer, which is then rounded. -/
instance : Record Float where
  write := .real
  readIn?
    | _, .real x => some x
    | _, .int n => some (Number.withSign (n < 0) (Number.ofNat n.natAbs))
    | _, _ => none

/-- A value kept as a text. -/
@[reducible]
def ofText (render : α → String) (parse? : String → Option α) : Record α where
  write a := .text (render a)
  readIn?
    | _, .text s => parse? s
    | _, _ => none

instance : Record Uuid := ofText Uuid.render Uuid.parse?

instance : Record Instant := ofText Calendar.render Calendar.parse?

instance : Record Span := ofText Span.render Span.parse?

/-- A value that may be absent; it is then null. -/
instance [Record α] : Record (Option α) where
  write := .option write
  readIn?
    | _, .null => some none
    | d, j => (readIn? d j).map some

instance [Record α] : Record (List α) where
  write := .list write
  readIn?
    | d, .array items => items.mapM (readIn? d)
    | _, _ => none

/-- The entries of a directory are the members of an object.  Of two members for
a key the later one counts. -/
instance [Record α] : Record (Directory String α) where
  write d := .record (d.entries.map fun entry => (entry.1, write entry.2))
  readIn?
    | d, .object members => do
        let entries ← members.mapM fun member => do
          return (← member.1, ← readIn? d member.2)
        return Directory.ofList entries
    | _, _ => none

/-- A member of a list of values with names, kept as its name.  The name may also
stand as the key of an object whose only member is nothing. -/
@[reducible]
def ofNames (all : List α) (name : α → String) : Record α where
  write a := .text (name a)
  readIn?
    | _, .text s => all.find? fun a => name a = s
    | d, .object [(some s, j)] => if d.isNothing j then all.find? fun a => name a = s else none
    | _, _ => none

end Record

/-! ## Structures -/

/-- How values of type `σ` are kept by their fields, with a reader that gives an
`α`.  The reader looks up fields by name; `required` counts the fields that an
array must have at least. -/
structure Layout (σ α : Type) where
  names : List String
  required : Nat
  write : σ → List Json
  read? : Dialect → (String → Option Json) → Option α

namespace Layout

/-- The layout without fields, whose reader gives the same value always. -/
def start (make : α) : Layout σ α := ⟨[], 0, fun _ => [], fun _ _ => some make⟩

/-- A layout with one more field, which the given reader takes from what is found
under its name. -/
def append [Record β] (l : Layout σ (β → α)) (name : String) (get : σ → β) (required : Nat)
    (find? : Dialect → Option Json → Option β) : Layout σ α where
  names := l.names ++ [name]
  required := required
  write s := l.write s ++ [Record.write (get s)]
  read? d look := do
    let make ← l.read? d look
    let value ← find? d (look name)
    return make value

/-- A layout with one more field that must be given. -/
def field [Record β] (l : Layout σ (β → α)) (name : String) (get : σ → β) : Layout σ α :=
  l.append name get (l.names.length + 1) fun d found => found >>= Record.readIn? d

/-- A layout with one more field that may be missing. -/
def optional [Record β] (l : Layout σ (Option β → α)) (name : String) (get : σ → Option β) :
    Layout σ α :=
  l.append name get (l.names.length + 1) fun d found =>
    Record.readIn? d (found.getD .null)

/-- A layout with one more field whose value is that of a standard record if it is
missing. -/
def fieldOf [Record β] (l : Layout σ (β → α)) (standard : σ) (name : String) (get : σ → β) :
    Layout σ α :=
  l.append name get l.required fun d found =>
    match found with
    | some j => Record.readIn? d j
    | none => some (get standard)

/-- The known members of an object, unless a key denotes nothing or a known member
is given twice. -/
def known? (names : List String) (members : List (Option String × Json)) :
    Option (List (String × Json)) := do
  let named ← members.mapM fun member => member.1.map fun key => (key, member.2)
  let known := named.filter fun member => names.contains member.1
  let keys := known.map (·.1)
  if keys.eraseDups.length = keys.length then some known else none

/-- The fields that a value gives. -/
def fields? (l : Layout σ α) (d : Dialect) : Json → Option (List (String × Json))
  | .object members => known? l.names members
  | .array items =>
      if l.required ≤ items.length && (d.surplusItems || items.length ≤ l.names.length) then
        some (l.names.zip items)
      else none
  | _ => none

end Layout

/-- The record of a structure with the given layout. -/
@[reducible]
def Record.ofLayout (l : Layout σ σ) : Record σ where
  write s := .record (l.names.zip (l.write s))
  readIn? d j := do
    let fields ← l.fields? d j
    l.read? d fun name => fields.lookup name

end Vivarium
