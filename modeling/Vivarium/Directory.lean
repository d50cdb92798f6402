/-!
# Directories

A directory holds at most one value for a key and lists its values in ascending
order of the keys.  Organisms are kept by id, populations and settings by name.
The entries are a list whose keys ascend strictly; that they do is part of the
type, so two directories with the same content are equal.

Main definitions:

* `KeyOrder`: what is asked of the order of keys;
* `Directory`: the entries with their order;
* `find?`, `contains`, `insert`, `erase`: the operations on one key;
* `mapValues`, `traverse`: the same keys with other values;
* `ofList`: the entries of a list, later ones replacing earlier ones.
-/

namespace Vivarium

universe u v w

/-- The order of keys is transitive, and of two different keys one is less. -/
class KeyOrder (κ : Type u) [LT κ] : Prop where
  less_trans {a b c : κ} : a < b → b < c → a < c
  eq_of_not_less {a b : κ} : ¬a < b → ¬b < a → a = b

instance : KeyOrder String where
  less_trans := String.lt_trans
  eq_of_not_less notLess notGreater :=
    String.le_antisymm (String.not_lt.mp notGreater) (String.not_lt.mp notLess)

/-- A finite map whose entries are listed in strictly ascending order of keys. -/
structure Directory (κ : Type u) [LT κ] (α : Type v) where
  entries : List (κ × α)
  ascending : entries.Pairwise fun a b => a.1 < b.1

namespace Directory

variable {κ : Type u} [LT κ] {α : Type v} {β : Type w} {σ : Type}

/-- The directory without entries. -/
def empty : Directory κ α := ⟨[], List.Pairwise.nil⟩

instance : Inhabited (Directory κ α) := ⟨empty⟩

/-- The keys in ascending order. -/
def keys (d : Directory κ α) : List κ := d.entries.map (·.1)

/-- The values in ascending order of their keys. -/
def values (d : Directory κ α) : List α := d.entries.map (·.2)

/-- The number of entries. -/
def size (d : Directory κ α) : Nat := d.entries.length

/-- The directory has no entries. -/
def isEmpty (d : Directory κ α) : Bool := d.entries.isEmpty

/-- The value of a key. -/
def find? [DecidableEq κ] (d : Directory κ α) (key : κ) : Option α := d.entries.lookup key

/-- The key has a value. -/
def contains [DecidableEq κ] (d : Directory κ α) (key : κ) : Bool := (d.find? key).isSome

section Insertion

variable [DecidableLT κ]

/-- The entries with a value put at its place, in exchange for an older value of
the same key. -/
def insertEntry (key : κ) (value : α) : List (κ × α) → List (κ × α)
  | [] => [(key, value)]
  | entry :: rest =>
      if key < entry.1 then (key, value) :: entry :: rest
      else if entry.1 < key then entry :: insertEntry key value rest
      else (key, value) :: rest

theorem mem_insertEntry {key : κ} {value : α} {entry : κ × α} {entries : List (κ × α)}
    (member : entry ∈ insertEntry key value entries) :
    entry = (key, value) ∨ entry ∈ entries := by
  induction entries with
  | nil => exact Or.inl (List.mem_singleton.mp member)
  | cons first rest inductionHypothesis =>
      unfold insertEntry at member
      split at member
      · exact List.mem_cons.mp member
      · split at member
        · rcases List.mem_cons.mp member with rfl | later
          · exact Or.inr List.mem_cons_self
          · exact (inductionHypothesis later).imp_right (List.mem_cons_of_mem _)
        · exact (List.mem_cons.mp member).imp_right (List.mem_cons_of_mem _)

variable [KeyOrder κ]

theorem insertEntry_ascending {key : κ} {value : α} {entries : List (κ × α)}
    (ascending : entries.Pairwise fun a b => a.1 < b.1) :
    (insertEntry key value entries).Pairwise fun a b => a.1 < b.1 := by
  induction entries with
  | nil => exact List.pairwise_singleton _ _
  | cons first rest inductionHypothesis =>
      obtain ⟨least, restAscending⟩ := List.pairwise_cons.mp ascending
      unfold insertEntry
      split
      · rename_i before
        refine List.pairwise_cons.mpr ⟨fun entry member => ?_, ascending⟩
        rcases List.mem_cons.mp member with rfl | later
        · exact before
        · exact KeyOrder.less_trans before (least entry later)
      · rename_i notBefore
        split
        · rename_i after
          refine List.pairwise_cons.mpr
            ⟨fun entry member => ?_, inductionHypothesis restAscending⟩
          rcases mem_insertEntry member with rfl | later
          · exact after
          · exact least entry later
        · rename_i notAfter
          have same : key = first.1 := KeyOrder.eq_of_not_less notBefore notAfter
          subst same
          exact List.pairwise_cons.mpr ⟨least, restAscending⟩

/-- The directory with a value for a key, in exchange for an older one. -/
def insert (d : Directory κ α) (key : κ) (value : α) : Directory κ α :=
  ⟨insertEntry key value d.entries, insertEntry_ascending d.ascending⟩

/-- The entries of a list; of two values for a key the later one stays. -/
def ofList (entries : List (κ × α)) : Directory κ α :=
  entries.foldl (fun d entry => d.insert entry.1 entry.2) empty

end Insertion

/-- The directory without a key. -/
def erase [DecidableEq κ] (d : Directory κ α) (key : κ) : Directory κ α :=
  ⟨d.entries.filter fun entry => entry.1 ≠ key, d.ascending.filter _⟩

theorem mapValues_ascending {entries : List (κ × α)}
    (ascending : entries.Pairwise fun a b => a.1 < b.1) (f : κ → α → β) :
    (entries.map fun entry => (entry.1, f entry.1 entry.2)).Pairwise
      fun a b => a.1 < b.1 :=
  List.pairwise_map.mpr ascending

/-- The directory with the same keys and with each value replaced. -/
def mapValues (d : Directory κ α) (f : κ → α → β) : Directory κ β :=
  ⟨d.entries.map fun entry => (entry.1, f entry.1 entry.2), mapValues_ascending d.ascending f⟩

/-- Entries visited in order by a step that replaces the value and passes a state
on. -/
def traverseEntries (f : κ → α → σ → β × σ) : List (κ × α) → σ → List (κ × β) × σ
  | [], s => ([], s)
  | entry :: rest, s =>
      let visited := f entry.1 entry.2 s
      let others := traverseEntries f rest visited.2
      ((entry.1, visited.1) :: others.1, others.2)

omit [LT κ] in
theorem keys_traverseEntries (f : κ → α → σ → β × σ) (entries : List (κ × α)) (s : σ) :
    (traverseEntries f entries s).1.map (·.1) = entries.map (·.1) := by
  induction entries generalizing s with
  | nil => rfl
  | cons entry rest inductionHypothesis => simp [traverseEntries, inductionHypothesis]

theorem traverseEntries_ascending {entries : List (κ × α)}
    (ascending : entries.Pairwise fun a b => a.1 < b.1) (f : κ → α → σ → β × σ) (s : σ) :
    (traverseEntries f entries s).1.Pairwise fun a b => a.1 < b.1 := by
  have keysAscend : (entries.map (·.1)).Pairwise (· < ·) := List.pairwise_map.mpr ascending
  rw [← keys_traverseEntries f entries s] at keysAscend
  exact List.pairwise_map.mp keysAscend

/-- The directory with each value replaced in ascending order of keys by a step
that passes a state on, and the last state. -/
def traverse (d : Directory κ α) (f : κ → α → σ → β × σ) (s : σ) : Directory κ β × σ :=
  (⟨(traverseEntries f d.entries s).1, traverseEntries_ascending d.ascending f s⟩,
    (traverseEntries f d.entries s).2)

@[ext]
theorem ext {d e : Directory κ α} (same : d.entries = e.entries) : d = e := by
  cases d
  cases e
  congr

@[simp]
theorem keys_mapValues (d : Directory κ α) (f : κ → α → β) :
    (d.mapValues f).keys = d.keys := by
  simp [keys, mapValues]

end Directory

end Vivarium
