import Vivarium.Directory

/-!
# Lookups in directories

Each operation on a directory is described by what is found in it afterwards, so
that nothing else has to know how the entries are listed.

Main statements:

* `ext_of_find?`: directories in which the same is found are the same;
* `find?_insert`, `find?_erase`: the operations on one key;
* `lookup_filter`: the entries of some keys;
* `insert_insert`, `insert_of_find?_eq_some`, `erase_of_find?_eq_none`: writes that
  leave no trace;
* `entries_insert_of_append`: a value put in exchange for another one;
* `find?_ofList`: a listing with each key once;
* `perm_entries_erase`, `perm_entries_insert`: the entry of one key and the others;
* `traverseEntries_filter`: a walk that leaves some keys out;
* `find?_traverse`, `mem_values_traverse`: a walk replaces values only by what its step
  makes of them.
-/

namespace Vivarium

namespace Directory

universe u v w

variable {κ : Type u} [LT κ] [DecidableEq κ] {α : Type v} {β : Type w} {σ : Type}

@[simp]
theorem find?_empty (key : κ) : (empty : Directory κ α).find? key = none := rfl

theorem contains_eq_false_iff {d : Directory κ α} {key : κ} :
    d.contains key = false ↔ d.find? key = none := by
  rw [contains, Option.isSome_eq_false_iff, Option.isNone_iff_eq_none]

theorem contains_iff {d : Directory κ α} {key : κ} :
    d.contains key = true ↔ ∃ value, d.find? key = some value := Option.isSome_iff_exists

theorem contains_of_mem_keys {d : Directory κ α} {key : κ} (listed : key ∈ d.keys) :
    d.contains key = true := by
  obtain ⟨entry, member, rfl⟩ := List.mem_map.mp listed
  rw [← Bool.not_eq_false, contains_eq_false_iff]
  intro missing
  have unlike := List.lookup_eq_none_iff.mp missing entry member
  exact bne_iff_ne.mp unlike rfl

/-- A key in front of all others is not found. -/
theorem lookup_eq_none_of_less (irreflexive : ∀ key : κ, ¬key < key) {key : κ}
    {entries : List (κ × α)} (less : ∀ entry ∈ entries, key < entry.1) :
    entries.lookup key = none := by
  refine List.lookup_eq_none_iff.mpr ?_
  intro entry member
  rw [bne_iff_ne]
  intro same
  exact irreflexive key (same ▸ less entry member)

theorem entries_eq_of_lookup [KeyOrder κ] (irreflexive : ∀ key : κ, ¬key < key)
    {first second : List (κ × α)} (firstAscends : first.Pairwise fun a b => a.1 < b.1)
    (secondAscends : second.Pairwise fun a b => a.1 < b.1)
    (same : ∀ key, first.lookup key = second.lookup key) : first = second := by
  -- a key in front of the entries of one list is not among those of the other
  have unlisted : ∀ {key : κ} {value : α} {rest others : List (κ × α)},
      (∀ entry ∈ others, key < entry.1) →
        ((key, value) :: rest).lookup key ≠ others.lookup key := by
    intro key value rest others less impossible
    rw [lookup_eq_none_of_less irreflexive less, List.lookup_cons_self] at impossible
    cases impossible
  induction first generalizing second with
  | nil =>
      cases second with
      | nil => rfl
      | cons other others => exact absurd (same other.1).symm (unlisted (List.forall_mem_nil _))
  | cons entry rest inductionHypothesis =>
      cases second with
      | nil => exact absurd (same entry.1) (unlisted (List.forall_mem_nil _))
      | cons other others =>
          obtain ⟨key, value⟩ := entry
          obtain ⟨otherKey, otherValue⟩ := other
          obtain ⟨least, restAscends⟩ := List.pairwise_cons.mp firstAscends
          obtain ⟨otherLeast, othersAscend⟩ := List.pairwise_cons.mp secondAscends
          have notBefore : ¬key < otherKey := by
            intro before
            refine absurd (same key) (unlisted (List.forall_mem_cons.mpr ⟨before, ?_⟩))
            exact fun entry member => KeyOrder.less_trans before (otherLeast entry member)
          have notAfter : ¬otherKey < key := by
            intro after
            refine absurd (same otherKey).symm (unlisted (List.forall_mem_cons.mpr ⟨after, ?_⟩))
            exact fun entry member => KeyOrder.less_trans after (least entry member)
          obtain rfl := KeyOrder.eq_of_not_less notBefore notAfter
          have here := same key
          rw [List.lookup_cons_self, List.lookup_cons_self] at here
          cases here
          rw [inductionHypothesis restAscends othersAscend]
          intro sought
          by_cases first : sought = key
          · subst first
            rw [lookup_eq_none_of_less irreflexive least,
              lookup_eq_none_of_less irreflexive otherLeast]
          · have later := same sought
            rw [List.lookup_cons, List.lookup_cons, beq_eq_false_iff_ne.mpr first] at later
            exact later

/-- Directories in which the same is found are the same. -/
theorem ext_of_find? [KeyOrder κ] (irreflexive : ∀ key : κ, ¬key < key) {d e : Directory κ α}
    (same : ∀ key, d.find? key = e.find? key) : d = e :=
  Directory.ext (entries_eq_of_lookup irreflexive d.ascending e.ascending same)

section Insertion

variable [DecidableLT κ]

theorem lookup_insertEntry [KeyOrder κ] (key other : κ) (value : α)
    (entries : List (κ × α)) :
    (insertEntry key value entries).lookup other =
      if other = key then some value else entries.lookup other := by
  have lookup_cons : ∀ entries : List (κ × α), ((key, value) :: entries).lookup other =
      if other = key then some value else entries.lookup other := by
    intro entries
    rw [List.lookup_cons]
    by_cases same : other = key
    · rw [if_pos same, beq_iff_eq.mpr same]
    · rw [if_neg same, beq_eq_false_iff_ne.mpr same]
  induction entries with
  | nil => exact lookup_cons []
  | cons first rest inductionHypothesis =>
      obtain ⟨firstKey, firstValue⟩ := first
      simp only [insertEntry]
      split
      · exact lookup_cons _
      · rename_i notBefore
        split
        · rename_i after
          simp only [List.lookup_cons, inductionHypothesis]
          by_cases here : other = firstKey
          · -- the key that is passed by is not the key itself
            subst here
            have different : other ≠ key := by
              rintro rfl
              exact notBefore after
            simp only [beq_self_eq_true, if_neg different]
          · rw [beq_eq_false_iff_ne.mpr here]
        · rename_i notAfter
          obtain rfl : key = firstKey := KeyOrder.eq_of_not_less notBefore notAfter
          rw [lookup_cons, List.lookup_cons]
          by_cases same : other = key
          · rw [if_pos same, if_pos same]
          · rw [if_neg same, if_neg same, beq_eq_false_iff_ne.mpr same]

/-- An insertion is seen under its own key only. -/
theorem find?_insert [KeyOrder κ] (d : Directory κ α) (key other : κ) (value : α) :
    (d.insert key value).find? other = if other = key then some value else d.find? other :=
  lookup_insertEntry key other value d.entries

@[simp]
theorem find?_insert_self [KeyOrder κ] (d : Directory κ α) (key : κ) (value : α) :
    (d.insert key value).find? key = some value := by
  rw [find?_insert, if_pos rfl]

theorem find?_insert_of_ne [KeyOrder κ] (d : Directory κ α) {key other : κ} (value : α)
    (different : other ≠ key) : (d.insert key value).find? other = d.find? other := by
  rw [find?_insert, if_neg different]

/-- Of two values put under one key the later one counts. -/
theorem insert_insert [KeyOrder κ] (irreflexive : ∀ key : κ, ¬key < key) (d : Directory κ α)
    (key : κ) (first second : α) :
    (d.insert key first).insert key second = d.insert key second := by
  refine ext_of_find? irreflexive ?_
  intro other
  simp only [find?_insert]
  split
  · rfl
  · rfl

/-- Putting back what is there changes nothing. -/
theorem insert_of_find?_eq_some [KeyOrder κ] (irreflexive : ∀ key : κ, ¬key < key)
    {d : Directory κ α} {key : κ} {value : α} (found : d.find? key = some value) :
    d.insert key value = d := by
  refine ext_of_find? irreflexive ?_
  intro other
  rw [find?_insert]
  split
  · rename_i same
    rw [same, found]
  · rfl

omit [DecidableEq κ] in
/-- Replacing every value and putting one more commute. -/
theorem mapValues_insert [KeyOrder κ] (f : κ → α → β) (d : Directory κ α) (key : κ) (value : α) :
    (d.insert key value).mapValues f = (d.mapValues f).insert key (f key value) := by
  refine Directory.ext ?_
  show (insertEntry key value d.entries).map _ = insertEntry key _ (d.entries.map _)
  induction d.entries with
  | nil => rfl
  | cons entry rest inductionHypothesis =>
      simp only [insertEntry, List.map_cons]
      split
      · rfl
      · split
        · rw [List.map_cons, inductionHypothesis]
        · rfl

omit [DecidableEq κ] in
theorem insertEntry_append [KeyOrder κ] (irreflexive : ∀ key : κ, ¬key < key) {key : κ}
    {old : α} {before after : List (κ × α)} (less : ∀ entry ∈ before, entry.1 < key) (value : α) :
    insertEntry key value (before ++ (key, old) :: after) = before ++ (key, value) :: after := by
  induction before with
  | nil =>
      rw [List.nil_append, insertEntry, if_neg (irreflexive key), if_neg (irreflexive key),
        List.nil_append]
  | cons entry rest inductionHypothesis =>
      obtain ⟨first, others⟩ := List.forall_mem_cons.mp less
      have notBefore : ¬key < entry.1 := fun before =>
        irreflexive key (KeyOrder.less_trans before first)
      rw [List.cons_append, insertEntry, if_neg notBefore, if_pos first,
        inductionHypothesis others, List.cons_append]

omit [DecidableEq κ] in
/-- A value that is put in exchange for another one stands where that one stood. -/
theorem entries_insert_of_append [KeyOrder κ] (irreflexive : ∀ key : κ, ¬key < key)
    {d : Directory κ α} {key : κ} {old : α} {before after : List (κ × α)}
    (divided : d.entries = before ++ (key, old) :: after) (value : α) :
    (d.insert key value).entries = before ++ (key, value) :: after := by
  have ascending := d.ascending
  rw [divided] at ascending
  have less : ∀ entry ∈ before, entry.1 < key := fun entry member =>
    (List.pairwise_append.mp ascending).2.2 entry member _ List.mem_cons_self
  show insertEntry key value d.entries = _
  rw [divided, insertEntry_append irreflexive less]

theorem entries_insert_of_find? [KeyOrder κ] (irreflexive : ∀ key : κ, ¬key < key)
    {d : Directory κ α} {key : κ} {old : α} (found : d.find? key = some old) (value : α) :
    ∃ before after, d.entries = before ++ (key, old) :: after ∧
      (d.insert key value).entries = before ++ (key, value) :: after := by
  obtain ⟨before, after, divided, -⟩ := List.lookup_eq_some_iff.mp found
  exact ⟨before, after, divided, entries_insert_of_append irreflexive divided value⟩

/-- Behind insertions under different keys each of them is found, and else what was
there before. -/
theorem find?_foldl_insert [KeyOrder κ] {entries : List (κ × α)}
    (distinct : (entries.map (·.1)).Nodup) (d : Directory κ α) (key : κ) (value : α) :
    (entries.foldl (fun d entry => d.insert entry.1 entry.2) d).find? key = some value ↔
      (key, value) ∈ entries ∨ key ∉ entries.map (·.1) ∧ d.find? key = some value := by
  induction entries generalizing d with
  | nil => simp
  | cons entry rest inductionHypothesis =>
      obtain ⟨entryKey, entryValue⟩ := entry
      obtain ⟨fresh, distinct⟩ := List.nodup_cons.mp distinct
      rw [List.foldl_cons, inductionHypothesis distinct, find?_insert]
      by_cases here : key = entryKey
      · subst here
        have notLater : (key, value) ∉ rest := fun member =>
          fresh (List.mem_map_of_mem (f := (·.1)) member)
        simp_all [eq_comm]
      · simp [here]

/-- A listing with each key once is a directory of just these entries. -/
theorem find?_ofList [KeyOrder κ] {entries : List (κ × α)}
    (distinct : (entries.map (·.1)).Nodup) (key : κ) (value : α) :
    (ofList entries).find? key = some value ↔ (key, value) ∈ entries := by
  rw [ofList, find?_foldl_insert distinct]
  simp

end Insertion

theorem find?_mapValues (d : Directory κ α) (f : κ → α → β) (key : κ) :
    (d.mapValues f).find? key = (d.find? key).map (f key) := by
  show (d.entries.map fun entry => (entry.1, f entry.1 entry.2)).lookup key =
    (d.entries.lookup key).map (f key)
  induction d.entries with
  | nil => rfl
  | cons entry rest inductionHypothesis =>
      rw [List.map_cons, List.lookup_cons, List.lookup_cons, inductionHypothesis]
      by_cases here : key = entry.1
      · subst here
        rw [beq_self_eq_true]
        rfl
      · rw [beq_eq_false_iff_ne.mpr here]

/-- Replacing every value and removing a key commute. -/
theorem mapValues_erase (f : κ → α → β) (d : Directory κ α) (key : κ) :
    (d.erase key).mapValues f = (d.mapValues f).erase key := by
  refine Directory.ext ?_
  show (d.entries.filter _).map _ = (d.entries.map _).filter _
  rw [List.filter_map]
  rfl

omit [DecidableEq κ] in
/-- No key is listed twice. -/
theorem nodup_keys (irreflexive : ∀ key : κ, ¬key < key) (d : Directory κ α) : d.keys.Nodup := by
  have ascending : d.keys.Pairwise (· < ·) := List.pairwise_map.mpr d.ascending
  refine ascending.imp ?_
  rintro key other less rfl
  exact irreflexive key less

/-- Removing what is not there changes nothing. -/
theorem erase_of_find?_eq_none {d : Directory κ α} {key : κ} (missing : d.find? key = none) :
    d.erase key = d := by
  refine Directory.ext (List.filter_eq_self.mpr ?_)
  intro entry member
  have unlike := List.lookup_eq_none_iff.mp missing entry member
  exact decide_eq_true (Ne.symm (bne_iff_ne.mp unlike))

omit [LT κ] in
theorem mem_of_lookup {key : κ} {value : α} {entries : List (κ × α)}
    (found : entries.lookup key = some value) : (key, value) ∈ entries := by
  obtain ⟨before, after, rfl, -⟩ := List.lookup_eq_some_iff.mp found
  exact List.mem_append_right before List.mem_cons_self

theorem contains_iff_mem_keys {d : Directory κ α} {key : κ} :
    d.contains key = true ↔ key ∈ d.keys := by
  refine ⟨?_, contains_of_mem_keys⟩
  intro held
  obtain ⟨value, found⟩ := contains_iff.mp held
  exact List.mem_map.mpr ⟨(key, value), mem_of_lookup found, rfl⟩

/-- What is found is one of the values. -/
theorem mem_values_of_find? {d : Directory κ α} {key : κ} {value : α}
    (found : d.find? key = some value) : value ∈ d.values :=
  List.mem_map.mpr ⟨(key, value), mem_of_lookup found, rfl⟩

/-- An entry is found under its key. -/
theorem find?_eq_some_of_mem (irreflexive : ∀ key : κ, ¬key < key) {d : Directory κ α} {key : κ}
    {value : α} (listed : (key, value) ∈ d.entries) : d.find? key = some value := by
  obtain ⟨before, after, divided⟩ := List.append_of_mem listed
  refine List.lookup_eq_some_iff.mpr ⟨before, after, divided, ?_⟩
  -- the entries in front have smaller keys
  intro entry earlier
  have ascending := d.ascending
  rw [divided] at ascending
  have less := (List.pairwise_append.mp ascending).2.2 entry earlier _ List.mem_cons_self
  rw [bne_iff_ne]
  intro same
  exact irreflexive key (same ▸ less)

/-- Each of the values is found under some key. -/
theorem exists_find?_of_mem_values (irreflexive : ∀ key : κ, ¬key < key) {d : Directory κ α}
    {value : α} (member : value ∈ d.values) : ∃ key, d.find? key = some value := by
  obtain ⟨⟨key, value⟩, listed, rfl⟩ := List.mem_map.mp member
  exact ⟨key, find?_eq_some_of_mem irreflexive listed⟩

omit [DecidableEq κ] in
/-- A write adds one value at most. -/
theorem mem_values_insert [DecidableLT κ] [KeyOrder κ] {d : Directory κ α} {key : κ}
    {value other : α} (member : other ∈ (d.insert key value).values) :
    other = value ∨ other ∈ d.values := by
  obtain ⟨entry, listed, rfl⟩ := List.mem_map.mp member
  rcases mem_insertEntry listed with rfl | before
  · exact Or.inl rfl
  · exact Or.inr (List.mem_map_of_mem before)

/-- A removal adds no value. -/
theorem mem_values_erase {d : Directory κ α} {key : κ} {value : α}
    (member : value ∈ (d.erase key).values) : value ∈ d.values := by
  obtain ⟨entry, listed, rfl⟩ := List.mem_map.mp member
  exact List.mem_map_of_mem (List.mem_filter.mp listed).1

theorem size_erase_le (d : Directory κ α) (key : κ) : (d.erase key).size ≤ d.size :=
  List.length_filter_le _ _

omit [DecidableEq κ] in
/-- A write adds one entry at most. -/
theorem size_insert_le [DecidableLT κ] [KeyOrder κ] (d : Directory κ α) (key : κ) (value : α) :
    (d.insert key value).size ≤ d.size + 1 := by
  show (insertEntry key value d.entries).length ≤ d.entries.length + 1
  induction d.entries with
  | nil => exact Nat.le_refl _
  | cons entry rest inductionHypothesis =>
      unfold insertEntry
      split
      · exact Nat.le_refl _
      · split
        · exact Nat.succ_le_succ inductionHypothesis
        · exact Nat.le_succ _

/-- A value put in exchange for another one adds no entry. -/
theorem size_insert_of_find? [DecidableLT κ] [KeyOrder κ] (irreflexive : ∀ key : κ, ¬key < key)
    {d : Directory κ α} {key : κ} {old : α} (found : d.find? key = some old) (value : α) :
    (d.insert key value).size = d.size := by
  obtain ⟨before, after, stood, stands⟩ := entries_insert_of_find? irreflexive found value
  rw [size, size, stood, stands, List.length_append, List.length_append]
  rfl

omit [LT κ] in
/-- Of the entries with some keys each is found under its key, and nothing else. -/
theorem lookup_filter (keep : κ → Bool) (entries : List (κ × α)) (key : κ) :
    (entries.filter fun entry => keep entry.1).lookup key =
      if keep key then entries.lookup key else none := by
  induction entries with
  | nil => rw [List.filter_nil, List.lookup_nil, ite_self]
  | cons first rest inductionHypothesis =>
      obtain ⟨firstKey, firstValue⟩ := first
      by_cases here : key = firstKey
      · subst here
        cases kept : keep key with
        | true => simp [kept]
        | false => simpa [kept] using inductionHypothesis
      · have passed : (key == firstKey) = false := beq_eq_false_iff_ne.mpr here
        cases kept : keep firstKey with
        | true => simpa [kept, List.lookup_cons, passed] using inductionHypothesis
        | false => simpa [kept, List.lookup_cons, passed] using inductionHypothesis

/-- What is left without some keys is found as before. -/
theorem find?_of_filter {d fewer : Directory κ α} {gone : List κ}
    (left : fewer.entries = d.entries.filter fun entry => entry.1 ∉ gone) (key : κ) :
    fewer.find? key = if key ∈ gone then none else d.find? key := by
  rw [find?, left, lookup_filter (fun key => decide (key ∉ gone))]
  by_cases removed : key ∈ gone
  · simp [removed]
  · simp [removed, find?]

/-- A removal is seen under its own key only. -/
theorem find?_erase (d : Directory κ α) (key other : κ) :
    (d.erase key).find? other = if other = key then none else d.find? other := by
  have left : (d.erase key).entries = d.entries.filter fun entry => entry.1 ∉ [key] := by
    simp [erase]
  simp only [find?_of_filter left, List.mem_singleton]

/-! ## Listings -/

/-- A listing with each key once that has the same content lists the same entries. -/
theorem perm_entries (irreflexive : ∀ key : κ, ¬key < key) {d : Directory κ α}
    {listing : List (κ × α)} (distinct : (listing.map (·.1)).Nodup)
    (same : ∀ key value, (key, value) ∈ listing ↔ d.find? key = some value) :
    d.entries.Perm listing := by
  have once : ∀ {entries : List (κ × α)}, (entries.map (·.1)).Nodup → entries.Nodup :=
    fun keys => List.Pairwise.of_map _ (fun _ _ differ same => differ (congrArg _ same)) keys
  refine (List.perm_ext_iff_of_nodup (once (nodup_keys irreflexive d)) (once distinct)).mpr ?_
  rintro ⟨key, value⟩
  rw [same]
  exact ⟨find?_eq_some_of_mem irreflexive, mem_of_lookup⟩

/-- The entries are the one of a key and those of the others. -/
theorem perm_entries_erase (irreflexive : ∀ key : κ, ¬key < key) {d : Directory κ α} {key : κ}
    {value : α} (found : d.find? key = some value) :
    d.entries.Perm ((key, value) :: (d.erase key).entries) := by
  refine perm_entries irreflexive ?_ ?_
  · refine List.nodup_cons.mpr ⟨?_, nodup_keys irreflexive _⟩
    intro listed
    obtain ⟨other, impossible⟩ := contains_iff.mp (contains_of_mem_keys (d := d.erase key) listed)
    rw [find?_erase, if_pos rfl] at impossible
    cases impossible
  · intro other content
    have others : (other, content) ∈ (d.erase key).entries ↔
        (d.erase key).find? other = some content :=
      ⟨find?_eq_some_of_mem irreflexive, mem_of_lookup⟩
    rw [List.mem_cons, others, find?_erase]
    by_cases here : other = key
    · subst here
      simp [found, eq_comm]
    · simp [here]

/-- A write leaves the entries of the other keys. -/
theorem perm_entries_insert [DecidableLT κ] [KeyOrder κ] (irreflexive : ∀ key : κ, ¬key < key)
    (d : Directory κ α) (key : κ) (value : α) :
    (d.insert key value).entries.Perm ((key, value) :: (d.erase key).entries) := by
  have others : (d.insert key value).erase key = d.erase key := by
    refine ext_of_find? irreflexive ?_
    intro other
    rw [find?_erase, find?_erase, find?_insert]
    split
    · rfl
    · rfl
  have whole := perm_entries_erase irreflexive (find?_insert_self d key value)
  rwa [others] at whole

omit [LT κ] in
theorem lookup_traverseEntries {f : κ → α → σ → β × σ} {entries : List (κ × α)} {s : σ}
    {key : κ} {visited : β} (found : (traverseEntries f entries s).1.lookup key = some visited) :
    ∃ value reached, entries.lookup key = some value ∧ visited = (f key value reached).1 := by
  induction entries generalizing s with
  | nil => cases found
  | cons first rest inductionHypothesis =>
      obtain ⟨firstKey, firstValue⟩ := first
      simp only [traverseEntries, List.lookup_cons] at found ⊢
      by_cases here : key = firstKey
      · subst here
        rw [beq_self_eq_true] at found ⊢
        exact ⟨firstValue, s, rfl, (Option.some.inj found).symm⟩
      · rw [beq_eq_false_iff_ne.mpr here] at found ⊢
        exact inductionHypothesis found

omit [LT κ] [DecidableEq κ] in
/-- A walk through the entries of some keys finds the same as one through all of them, if its
step at any other key cannot be told from the state that is passed on. -/
theorem traverseEntries_filter (keep : κ → Bool) {f : κ → α → σ → β × σ} {Like : σ → σ → Prop}
    {entries : List (κ × α)}
    (visited : ∀ entry ∈ entries, keep entry.1 = true → ∀ s t, Like s t →
      (f entry.1 entry.2 s).1 = (f entry.1 entry.2 t).1 ∧
        Like (f entry.1 entry.2 s).2 (f entry.1 entry.2 t).2)
    (passed : ∀ entry ∈ entries, keep entry.1 = false → ∀ s t, Like s t →
      Like s (f entry.1 entry.2 t).2) {s t : σ} (like : Like s t) :
    (traverseEntries f (entries.filter fun entry => keep entry.1) s).1 =
        (traverseEntries f entries t).1.filter (fun entry => keep entry.1) ∧
      Like (traverseEntries f (entries.filter fun entry => keep entry.1) s).2
        (traverseEntries f entries t).2 := by
  induction entries generalizing s t with
  | nil => exact ⟨rfl, like⟩
  | cons entry rest inductionHypothesis =>
      obtain ⟨here, visitedLater⟩ := List.forall_mem_cons.mp visited
      obtain ⟨passedHere, passedLater⟩ := List.forall_mem_cons.mp passed
      cases kept : keep entry.1 with
      | true =>
          obtain ⟨same, stillLike⟩ := here kept s t like
          obtain ⟨others, alike⟩ := inductionHypothesis visitedLater passedLater stillLike
          simp only [List.filter_cons, kept, if_true, traverseEntries, same, others, true_and]
          exact alike
      | false =>
          obtain ⟨others, alike⟩ :=
            inductionHypothesis visitedLater passedLater (passedHere kept s t like)
          simp only [List.filter_cons, kept, Bool.false_eq_true, if_false, traverseEntries, others,
            true_and]
          exact alike

/-- What a walk leaves under a key is what its step makes of the value there. -/
theorem find?_traverse {d : Directory κ α} {f : κ → α → σ → β × σ} {s : σ} {key : κ}
    {visited : β} (found : (d.traverse f s).1.find? key = some visited) :
    ∃ value reached, d.find? key = some value ∧ visited = (f key value reached).1 :=
  lookup_traverseEntries found

omit [LT κ] [DecidableEq κ] in
theorem mem_traverseEntries {f : κ → α → σ → β × σ} {entries : List (κ × α)} {s : σ}
    {visited : κ × β} (member : visited ∈ (traverseEntries f entries s).1) :
    ∃ entry ∈ entries, ∃ reached, visited = (entry.1, (f entry.1 entry.2 reached).1) := by
  induction entries generalizing s with
  | nil => cases member
  | cons first rest inductionHypothesis =>
      rcases List.mem_cons.mp member with rfl | later
      · exact ⟨first, List.mem_cons_self, s, rfl⟩
      · obtain ⟨entry, among, reached, same⟩ := inductionHypothesis later
        exact ⟨entry, List.mem_cons_of_mem _ among, reached, same⟩

omit [DecidableEq κ] in
/-- A walk leaves no other values than those that its step makes. -/
theorem mem_values_traverse {d : Directory κ α} {f : κ → α → σ → β × σ} {s : σ} {visited : β}
    (member : visited ∈ (d.traverse f s).1.values) :
    ∃ value ∈ d.values, ∃ key reached, visited = (f key value reached).1 := by
  obtain ⟨entry, left, rfl⟩ := List.mem_map.mp member
  obtain ⟨before, among, reached, rfl⟩ := mem_traverseEntries left
  exact ⟨before.2, List.mem_map_of_mem among, before.1, reached, rfl⟩

end Directory

end Vivarium
