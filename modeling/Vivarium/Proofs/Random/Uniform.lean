import Mathlib.Algebra.Order.Floor.Div
import Mathlib.Order.Interval.Finset.Nat
import Vivarium.Proofs.Random.Draw

/-!
# Uniform indexes

An index below a count is made of a word by a multiplication: the product of the word and the
count is an index above and a rest below.  There are in general more words for one index than
for another.  So only the words whose rest lies in the first part of its range are read as an
index, and as many of them are for each index; the other words are refused, and the next one is
read in their place.

A stream is not a distribution, so what can be said of a draw is how it reads words, and of how
many words each index is read.  At most half of the words are refused.

The loop by itself has no end: it goes on for as long as words are refused.  What makes it a
function here is its patience, a bound of 4096 words, and a draw that has lost its patience takes
the last word anyway.  Of all runs of words at most one in `2 ^ 4096` gets it there, and for all
others the bound makes no difference.  Whatever relies on a draw is about the draw with its bound.

Main definitions:

* `IsEven`: words read as indexes without preference;
* `IsUniform`: a draw that reads words so.

Main statements:

* `words_eq_Ico`, `isEven_index?`: the words of an index, and their number;
* `reads_accept`, `isUniform_below64`: the words that a draw reads;
* `run_accept_of_read`: a draw that has read a word would not have needed its patience.
-/

namespace Vivarium

namespace Draw

/-- Words of some bits are read as indexes below a count, or not at all: for each index there is
the same share of words, and at least half of all words are read. -/
structure IsEven (bits count share : Nat) (index? : Nat → Option Nat) : Prop where
  within : ∀ word < 2 ^ bits, ∀ index, index? word = some index → index < count
  even : ∀ index < count,
    ((Finset.range (2 ^ bits)).filter fun word => index? word = some index).card = share
  mostly : 2 ^ bits ≤ 2 * (count * share)

/-- For every stream, the draw reads words until one of them is an index, and gives that index.
Only when it has no patience left, which is after 4096 words, it settles for the last one. -/
def IsUniform (bits count : Nat) (word draw : Draw Nat) : Prop :=
  ∃ share index?, IsEven bits count share index? ∧ ∀ rng, ∃ refused last,
    (word.times (refused.length + 1)).run rng = (refused ++ [last], (draw.run rng).2) ∧
      (∀ word ∈ refused, index? word = none) ∧
      (index? last = some (draw.run rng).1 ∨ refused.length + 1 = patience)

variable {bits count index : Nat}

/-! ## How words are read -/

/-- The number of words for each index. -/
def share (bits count : Nat) : Nat := 2 ^ (bits - 1 - Nat.log2 count)

/-- The index of a word, unless its rest lies too far behind. -/
def index? (bits count word : Nat) : Option Nat :=
  if word * count % 2 ^ bits < count * share bits count then some (word * count / 2 ^ bits)
  else none

theorem share_bounds (positive : 0 < count) (fits : count < 2 ^ bits) :
    count * share bits count ≤ 2 ^ bits ∧ 2 ^ bits ≤ 2 * (count * share bits count) := by
  have short : Nat.log2 count < bits := (Nat.log2_lt (Nat.ne_of_gt positive)).mpr fits
  have lower : 2 ^ Nat.log2 count ≤ count := Nat.log2_self_le (Nat.ne_of_gt positive)
  have upper : count ≤ 2 ^ (Nat.log2 count + 1) := Nat.le_of_lt Nat.lt_log2_self
  constructor
  · calc count * share bits count ≤ 2 ^ (Nat.log2 count + 1) * share bits count :=
          Nat.mul_le_mul_right _ upper
      _ = 2 ^ bits := by
          rw [share, ← Nat.pow_add]
          congr 1
          omega
  · calc 2 ^ bits = 2 * (2 ^ Nat.log2 count * share bits count) := by
          rw [share, ← Nat.pow_add, ← Nat.pow_succ']
          congr 1
          omega
      _ ≤ 2 * (count * share bits count) := by gcongr

/-- The product of a word that is read as an index lies in the first part of the stretch that
belongs to the index. -/
theorem index?_eq_some_iff {word : Nat} (positive : 0 < count) (fits : count < 2 ^ bits) :
    index? bits count word = some index ↔
      index * 2 ^ bits ≤ word * count ∧
        word * count < index * 2 ^ bits + count * share bits count := by
  have room := (share_bounds positive fits).1
  have parts := Nat.div_add_mod' (word * count) (2 ^ bits)
  have below := Nat.mod_lt (word * count) (Nat.two_pow_pos bits)
  unfold index?
  generalize word * count / 2 ^ bits = quotient at parts ⊢
  generalize word * count % 2 ^ bits = rest at parts below ⊢
  rw [← parts]
  constructor
  · intro taken
    split at taken
    · cases taken
      omega
    · cases taken
  · rintro ⟨above, within⟩
    have notBelow : index < quotient + 1 := by
      apply Nat.lt_of_mul_lt_mul_right (a := 2 ^ bits)
      rw [Nat.succ_mul]
      omega
    have notAbove : quotient < index + 1 := by
      apply Nat.lt_of_mul_lt_mul_right (a := 2 ^ bits)
      rw [Nat.succ_mul]
      omega
    have same : quotient = index := by omega
    rw [same, if_pos (by rw [same] at within; omega)]

theorem div_of_index? {word : Nat} (taken : index? bits count word = some index) :
    word * count / 2 ^ bits = index := by
  unfold index? at taken
  split at taken
  · exact Option.some.inj taken
  · cases taken

theorem lt_of_index? {word : Nat} (positive : 0 < count) (within : word < 2 ^ bits)
    (taken : index? bits count word = some index) : index < count := by
  rw [← div_of_index? taken]
  exact Nat.div_lt_of_lt_mul (Nat.mul_lt_mul_of_pos_right within positive)

/-- The words of an index are consecutive. -/
theorem words_eq_Ico (fits : count < 2 ^ bits) (below : index < count) :
    ((Finset.range (2 ^ bits)).filter fun word => index? bits count word = some index) =
      Finset.Ico (index * 2 ^ bits ⌈/⌉ count)
        ((index * 2 ^ bits + count * share bits count) ⌈/⌉ count) := by
  have positive : 0 < count := Nat.zero_lt_of_lt below
  have room := (share_bounds positive fits).1
  have next : index * 2 ^ bits + 2 ^ bits ≤ 2 ^ bits * count := by
    rw [← Nat.succ_mul, Nat.mul_comm]
    exact Nat.mul_le_mul_left _ below
  ext word
  rw [Finset.mem_filter, Finset.mem_range, Finset.mem_Ico, index?_eq_some_iff positive fits,
    ceilDiv_le_iff_le_mul positive, lt_iff_lt_of_le_iff_le (ceilDiv_le_iff_le_mul positive),
    Nat.mul_comm count word]
  constructor
  · exact And.right
  · intro between
    exact ⟨Nat.lt_of_mul_lt_mul_right (a := count) (by omega), between⟩

theorem isEven_index? (positive : 0 < count) (fits : count < 2 ^ bits) :
    IsEven bits count (share bits count) (index? bits count) where
  within _ within _ taken := lt_of_index? positive within taken
  even index below := by
    have stretch : (index * 2 ^ bits + count * share bits count) ⌈/⌉ count =
        index * 2 ^ bits ⌈/⌉ count + share bits count := by
      rw [Nat.ceilDiv_eq_add_pred_div, Nat.ceilDiv_eq_add_pred_div,
        ← Nat.add_mul_div_left _ _ positive]
      congr 1
      omega
    rw [words_eq_Ico fits below, Nat.card_Ico, stretch, Nat.add_sub_cancel_left]
  mostly := (share_bounds positive fits).2

/-! ## The words that are read -/

/-- What a draw does with the next word.  The last one that it has the patience for is taken. -/
theorem run_accept_succ (next : Draw Nat) (fuel : Nat) (positive : 0 < count) (rng : Rng) :
    (accept bits count next (fuel + 1)).run rng =
      if index? bits count (next.run rng).1 = none ∧ fuel ≠ 0 then
        (accept bits count next fuel).run (next.run rng).2
      else ((next.run rng).1 * count / 2 ^ bits, (next.run rng).2) := by
  have zone : 0 < count * share bits count := Nat.mul_pos positive (Nat.two_pow_pos _)
  have again (word : Nat) : (index? bits count word = none ∧ fuel ≠ 0) ↔
      ¬((decide (word * count % 2 ^ bits ≤ count * share bits count - 1) || decide (fuel = 0)) =
        true) := by
    have refused : index? bits count word = none ↔
        count * share bits count ≤ word * count % 2 ^ bits := by simp [index?]
    rw [refused, Bool.or_eq_true, decide_eq_true_eq, decide_eq_true_eq]
    omega
  simp only [again, ite_not]
  exact apply_ite (fun draw : Draw Nat => draw.run (next.run rng).2) _ _ _

theorem reads_accept (next : Draw Nat) (fuel : Nat) (positive : 0 < count) (rng : Rng) :
    ∃ refused last,
      (next.times (refused.length + 1)).run rng =
          (refused ++ [last], ((accept bits count next (fuel + 1)).run rng).2) ∧
        (∀ word ∈ refused, index? bits count word = none) ∧
        (index? bits count last = some ((accept bits count next (fuel + 1)).run rng).1 ∨
          refused.length = fuel) := by
  induction fuel generalizing rng with
  | zero =>
      rw [run_accept_succ next 0 positive, if_neg (fun again => again.2 rfl)]
      exact ⟨[], (next.run rng).1, rfl, List.forall_mem_nil _, Or.inr rfl⟩
  | succ fuel inductionHypothesis =>
      rw [run_accept_succ next (fuel + 1) positive]
      cases taken : index? bits count (next.run rng).1 with
      | none =>
          obtain ⟨refused, last, run, unread, settled⟩ := inductionHypothesis (next.run rng).2
          rw [if_pos ⟨rfl, Nat.succ_ne_zero fuel⟩]
          refine ⟨(next.run rng).1 :: refused, last, ?_,
            List.forall_mem_cons.mpr ⟨taken, unread⟩, settled.imp_right (congrArg (· + 1))⟩
          rw [List.length_cons, run_times_succ, run]
          rfl
      | some index =>
          rw [if_neg (fun again => nomatch again.1)]
          refine ⟨[], (next.run rng).1, rfl, List.forall_mem_nil _, Or.inl ?_⟩
          exact taken.trans (congrArg some (div_of_index? taken).symm)

/-- As soon as a word is read as an index, more patience would change nothing.  So a draw with
patience and one that goes on for as long as words are refused give the same index and the same
rest of the stream, unless all the words that there is patience for are refused. -/
theorem run_accept_of_read {next : Draw Nat} {rng later : Rng} {refused : List Nat} {last : Nat}
    {fuel : Nat} (positive : 0 < count)
    (read : (next.times (refused.length + 1)).run rng = (refused ++ [last], later))
    (unread : ∀ word ∈ refused, index? bits count word = none)
    (taken : index? bits count last = some index) (enough : refused.length < fuel) :
    (accept bits count next fuel).run rng = (index, later) := by
  induction refused generalizing rng fuel with
  | nil =>
      obtain ⟨fuel, rfl⟩ := Nat.exists_eq_add_one_of_ne_zero (Nat.ne_zero_of_lt enough)
      rw [List.length_nil, run_times_succ] at read
      obtain ⟨words, rest⟩ := Prod.mk.inj read
      cases words
      subst rest
      rw [run_accept_succ next fuel positive, taken, if_neg (fun again => nomatch again.1),
        div_of_index? taken]
      rfl
  | cons word others inductionHypothesis =>
      obtain ⟨fuel, rfl⟩ := Nat.exists_eq_add_one_of_ne_zero (Nat.ne_zero_of_lt enough)
      obtain ⟨unreadHere, unreadOthers⟩ := List.forall_mem_cons.mp unread
      rw [List.length_cons, run_times_succ] at read
      obtain ⟨words, rest⟩ := Prod.mk.inj read
      obtain ⟨here, behind⟩ := List.cons.inj words
      have further : others.length < fuel := Nat.lt_of_succ_lt_succ enough
      rw [run_accept_succ next fuel positive, here, unreadHere,
        if_pos ⟨rfl, Nat.ne_zero_of_lt further⟩]
      exact inductionHypothesis (Prod.ext behind rest) unreadOthers further

theorem isUniform_below64 (positive : 0 < count) (fits : count < 2 ^ 64) :
    IsUniform 64 count ((·.toNat) <$> word64) (below64 count) := by
  refine ⟨_, _, isEven_index? positive fits, ?_⟩
  intro rng
  obtain ⟨refused, last, run, unread, settled⟩ :=
    reads_accept ((·.toNat) <$> word64) (patience - 1) positive rng
  exact ⟨refused, last, run, unread, settled.imp_right (congrArg (· + 1))⟩

end Draw

end Vivarium
