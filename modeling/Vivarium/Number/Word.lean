/-!
# Machine words

Counts fit into machine words of sixty-four bits, and so do signed integers with
one bit for the sign.  A count that is kept in a word starts over from zero when
it is carried past the last one; as long as it has room, it counts like a natural
number.

Main definitions:

* `wordBound`: the least number that a word does not hold;
* `signBound`: the least number that a signed word does not hold;
* `HasRoom`: a word that can still be counted up;
* `wordsFrom`: words one after the other.

Main statements:

* `toNat_add_of_hasRoom`: a word with room counts like a natural number.
-/

namespace Vivarium.Number

/-- The least natural number that a word of sixty-four bits does not hold. -/
def wordBound : Nat := 0x10000000000000000

/-- The least natural number that a signed word of sixty-four bits does not hold. -/
def signBound : Nat := 0x8000000000000000

example : wordBound = 2 ^ 64 := by decide

example : signBound = 2 ^ 63 := by decide

/-! ## The greater of two words -/

theorem toNat_max (a b : UInt64) : (max a b).toNat = max a.toNat b.toNat := by
  show (if a ≤ b then b else a).toNat = if a.toNat ≤ b.toNat then b.toNat else a.toNat
  simp only [UInt64.le_iff_toNat_le]
  split <;> rfl

theorem max_cases (a b : UInt64) : max a b = a ∨ max a b = b := by
  show (if a ≤ b then b else a) = a ∨ (if a ≤ b then b else a) = b
  split
  · exact Or.inr rfl
  · exact Or.inl rfl

theorem le_max_left (a b : UInt64) : a ≤ max a b := by
  rw [UInt64.le_iff_toNat_le, toNat_max]
  exact Nat.le_max_left _ _

theorem le_max_right (a b : UInt64) : b ≤ max a b := by
  rw [UInt64.le_iff_toNat_le, toNat_max]
  exact Nat.le_max_right _ _

/-! ## Counting -/

/-- A word is read as the number that it holds. -/
instance wordToNat : Coe UInt64 Nat := ⟨UInt64.toNat⟩

/-- A number is read as the word that it leaves modulo `2 ^ 64`. -/
instance natToWord : Coe Nat UInt64 := ⟨UInt64.ofNat⟩

/-- The word can be counted up by a number without starting over. -/
def HasRoom (n : UInt64) (count : Nat) : Prop := n.toNat + count < wordBound

instance (n : UInt64) (count : Nat) : Decidable (HasRoom n count) :=
  inferInstanceAs (Decidable (_ < _))

theorem HasRoom.mono {n : UInt64} {count fewer : Nat} (room : HasRoom n count)
    (le : fewer ≤ count) : HasRoom n fewer :=
  Nat.lt_of_le_of_lt (Nat.add_le_add_left le _) room

theorem toNat_ofNat (count : Nat) : (UInt64.ofNat count).toNat = count % wordBound :=
  UInt64.toNat_ofNat'

theorem toNat_add (a b : UInt64) : (a + b).toNat = (a.toNat + b.toNat) % wordBound :=
  UInt64.toNat_add a b

theorem toNat_add_of_hasRoom {n : UInt64} {count : Nat} (room : HasRoom n count) :
    (n + UInt64.ofNat count).toNat = n.toNat + count := by
  rw [toNat_add, toNat_ofNat, Nat.add_mod_mod, Nat.mod_eq_of_lt room]

theorem toNat_succ_of_hasRoom {n : UInt64} (room : HasRoom n 1) :
    (n + 1).toNat = n.toNat + 1 :=
  toNat_add_of_hasRoom room

theorem HasRoom.max {m n : UInt64} {count : Nat} (first : HasRoom m count)
    (second : HasRoom n count) : HasRoom (max m n) count := by
  rcases max_cases m n with same | same <;> rwa [same]

/-- A word that has been counted up by one at most had room for it if it is not zero then. -/
theorem hasRoom_of_pos {n : UInt64} {count : Nat} (few : count ≤ 1)
    (positive : 0 < n + UInt64.ofNat count) : HasRoom n count := by
  have bound := n.toNat_lt
  rw [UInt64.lt_iff_toNat_lt, toNat_add, toNat_ofNat, Nat.add_mod_mod] at positive
  rw [HasRoom]
  unfold wordBound at positive ⊢
  have zero : (0 : UInt64).toNat = 0 := rfl
  omega

theorem lt_succ_of_hasRoom {n : UInt64} (room : HasRoom n 1) : n < n + 1 := by
  rw [UInt64.lt_iff_toNat_lt, toNat_succ_of_hasRoom room]
  exact Nat.lt_succ_self _

/-! ## Words one after the other -/

/-- So many words one after the other, from that of a number on. -/
def wordsFrom (first count : Nat) : List UInt64 := (List.range' first count).map UInt64.ofNat

@[simp]
theorem length_wordsFrom (first count : Nat) : (wordsFrom first count).length = count := by
  rw [wordsFrom, List.length_map, List.length_range']

theorem wordsFrom_succ (first count : Nat) :
    wordsFrom first (count + 1) = UInt64.ofNat first :: wordsFrom (first + 1) count := rfl

/-- A word counts no further than the number that it is of. -/
theorem toNat_lt_of_mem_wordsFrom {first count : Nat} {word : UInt64}
    (member : word ∈ wordsFrom first count) : word.toNat < first + count := by
  obtain ⟨n, among, rfl⟩ := List.mem_map.mp member
  rw [toNat_ofNat]
  exact Nat.lt_of_le_of_lt (Nat.mod_le n wordBound) (List.mem_range'_1.mp among).2

end Vivarium.Number
