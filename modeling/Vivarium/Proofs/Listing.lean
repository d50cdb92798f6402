import Mathlib.Data.List.Forall2

/-!
# Lists without repetition, and lists in order

A transfer goes through a list of ids from which each counts once, where it is
listed first.  `List.eraseDups` is that list; this module says how a walk along it
sees what the steps before have taken away.

Whatever is ranked or listed by line is sorted stably.  What that means is said here
without the algorithm.

Main definitions:

* `IsStableSort`: items in order, of which two change places only if they have to.

Main statements:

* `mergeSort_isStableSort`, `pairwise_mergeSort_of_pairwise`: sorting by merging is stable;
* `filter_mergeSort_of_ordered`, `filter_mergeSort_of_ties`: what sorting does to the items of one
  kind;
* `eraseDups_filter`, `nodup_eraseDups`: members left out, and each member once;
* `filterMap_eraseDups_cons`: the first member is looked up, and the others are
  looked up where it is missing.
-/

namespace Vivarium

universe u v

variable {α : Type u} {β : Type v}

/-! ## Order -/

/-- The items in order.  Two of them that do not have to change places keep the order in which
they came. -/
structure IsStableSort (before : α → α → Bool) (items sorted : List α) : Prop where
  perm : sorted.Perm items
  ordered : sorted.Pairwise fun a b => before a b = true
  stable : ∀ a b, before a b = true → [a, b].Sublist items → [a, b].Sublist sorted

theorem mergeSort_isStableSort {before : α → α → Bool}
    (transitive : ∀ a b c, before a b → before b c → before a c)
    (total : ∀ a b, (before a b || before b a) = true) (items : List α) :
    IsStableSort before items (items.mergeSort before) where
  perm := List.mergeSort_perm _ _
  ordered := List.pairwise_mergeSort transitive total items
  stable _ _ order pair := List.pair_sublist_mergeSort transitive total order pair

section Sorting

variable {before : α → α → Bool} (transitive : ∀ a b c, before a b → before b c → before a c)
  (total : ∀ a b, (before a b || before b a) = true)
include transitive total

/-- Items that are in order among themselves are left in the order in which they came. -/
theorem filter_mergeSort_of_ordered {keep : α → Bool} {items : List α}
    (ordered : (items.filter keep).Pairwise fun a b => before a b = true) :
    (items.mergeSort before).filter keep = items.filter keep := by
  have sorted := List.sublist_mergeSort transitive total ordered List.filter_sublist
  have kept := sorted.filter keep
  simp only [List.filter_filter, Bool.and_self] at kept
  exact (kept.eq_of_length ((List.mergeSort_perm items before).filter keep).length_eq.symm).symm

/-- So are items of which none has to come before another one. -/
theorem filter_mergeSort_of_ties {keep : α → Bool}
    (ties : ∀ a b, keep a = true → keep b = true → before a b = true) (items : List α) :
    (items.mergeSort before).filter keep = items.filter keep := by
  refine filter_mergeSort_of_ordered transitive total ?_
  refine List.pairwise_iff_forall_sublist.mpr fun {a b} pair => ?_
  have first := (List.mem_filter.mp (pair.subset List.mem_cons_self)).2
  have second := (List.mem_filter.mp (pair.subset (List.mem_cons_of_mem _ List.mem_cons_self))).2
  exact ties a b first second

/-- Items that came in an order of their own keep it where nothing else decides. -/
theorem pairwise_mergeSort_of_pairwise {Came : α → α → Prop} {items : List α}
    (came : items.Pairwise Came) :
    (items.mergeSort before).Pairwise fun a b =>
      before a b = true ∧ (before b a = true → Came a b) := by
  refine List.pairwise_iff_forall_sublist.mpr fun {a b} pair => ?_
  have ordered := List.pairwise_iff_forall_sublist.mp
    (List.pairwise_mergeSort transitive total items) pair
  refine ⟨ordered, fun tie => ?_⟩
  -- both are among the items that tie with the first one, and those are left as they came
  let ties := fun x => before a x && before x a
  have untouched : (items.mergeSort before).filter ties = items.filter ties := by
    refine filter_mergeSort_of_ties transitive total (fun x y first second => ?_) items
    exact transitive x a y (Bool.and_eq_true_iff.mp first).2 (Bool.and_eq_true_iff.mp second).1
  have reflexive : before a a = true := by simpa using total a a
  have first : ties a = true := Bool.and_eq_true_iff.mpr ⟨reflexive, reflexive⟩
  have second : ties b = true := Bool.and_eq_true_iff.mpr ⟨ordered, tie⟩
  have pairTies := pair.filter ties
  rw [untouched, List.filter_cons_of_pos first, List.filter_cons_of_pos second] at pairTies
  exact List.pairwise_iff_forall_sublist.mp came (pairTies.trans List.filter_sublist)

end Sorting

/-! ## Partners -/

/-- In two lists whose members are related one by one, each member of the second has a partner. -/
theorem exists_mem_of_forall₂ {Related : α → β → Prop} {items : List α} {partners : List β}
    (related : List.Forall₂ Related items partners) :
    ∀ partner ∈ partners, ∃ item ∈ items, Related item partner := by
  induction related with
  | nil => exact List.forall_mem_nil _
  | cons first _ inductionHypothesis =>
      refine List.forall_mem_cons.mpr ⟨⟨_, List.mem_cons_self, first⟩, ?_⟩
      intro partner member
      obtain ⟨item, among, paired⟩ := inductionHypothesis partner member
      exact ⟨item, List.mem_cons_of_mem _ among, paired⟩

/-! ## Repetition -/

variable [DecidableEq α]

theorem eraseDups_filter (keep : α → Bool) (items : List α) :
    (items.filter keep).eraseDups = items.eraseDups.filter keep := by
  match items with
  | [] => rfl
  | first :: rest =>
      have others := eraseDups_filter keep (rest.filter fun x => !x == first)
      rw [List.filter_filter] at others
      rw [List.eraseDups_cons]
      by_cases kept : keep first = true
      · rw [List.filter_cons_of_pos kept, List.filter_cons_of_pos kept, List.eraseDups_cons,
          ← others, List.filter_filter]
        simp only [Bool.and_comm]
      · rw [List.filter_cons_of_neg kept, List.filter_cons_of_neg kept, ← others]
        -- what is kept is different from the first member anyway
        refine congrArg _ (List.filter_congr ?_)
        intro x _
        by_cases same : x = first
        · rw [same, Bool.eq_false_iff.mpr kept]
          rfl
        · rw [beq_eq_false_iff_ne.mpr same]
          exact (Bool.and_true _).symm
termination_by items.length
decreasing_by exact Nat.lt_succ_of_le (List.length_filter_le _ _)

theorem nodup_eraseDups (items : List α) : items.eraseDups.Nodup := by
  match items with
  | [] => exact List.nodup_nil
  | first :: rest =>
      rw [List.eraseDups_cons]
      refine List.nodup_cons.mpr ⟨?_, nodup_eraseDups _⟩
      intro member
      have unlike := (List.mem_filter.mp (List.mem_eraseDups.mp member)).2
      rw [beq_self_eq_true] at unlike
      cases unlike
termination_by items.length
decreasing_by exact Nat.lt_succ_of_le (List.length_filter_le _ _)

/-- A further member counts if it is not listed yet. -/
theorem eraseDups_concat (items : List α) (x : α) :
    (items ++ [x]).eraseDups =
      if x ∈ items then items.eraseDups else items.eraseDups ++ [x] := by
  rw [List.eraseDups_append, List.removeAll, List.filter_cons, List.filter_nil]
  by_cases known : x ∈ items
  · simp [known]
  · simp [known, List.eraseDups_cons]

/-- Where nothing is listed twice, everything counts. -/
theorem length_eraseDups_of_nodup {items : List α} (unlike : items.Nodup) :
    items.eraseDups.length = items.length :=
  ((List.perm_ext_iff_of_nodup (nodup_eraseDups items) unlike).mpr
    fun _ => List.mem_eraseDups).length_eq

/-- The first member is looked up; the others are looked up where it is missing, so
that it is not found again. -/
theorem filterMap_eraseDups_cons {f g : α → Option β} {first : α} (missing : g first = none)
    (same : ∀ x, x ≠ first → g x = f x) (rest : List α) :
    (first :: rest).eraseDups.filterMap f =
      (f first).toList ++ rest.eraseDups.filterMap g := by
  have others : (rest.filter fun x => !x == first).eraseDups.filterMap f =
      rest.eraseDups.filterMap g := by
    rw [eraseDups_filter, List.filterMap_filter]
    congr 1
    funext x
    by_cases here : x = first
    · rw [here, beq_self_eq_true, missing]
      rfl
    · rw [beq_eq_false_iff_ne.mpr here, same x here]
      rfl
  rw [List.eraseDups_cons]
  cases found : f first with
  | none => rw [List.filterMap_cons_none found, others, Option.toList_none, List.nil_append]
  | some value =>
      rw [List.filterMap_cons_some found, others, Option.toList_some, List.singleton_append]

end Vivarium
