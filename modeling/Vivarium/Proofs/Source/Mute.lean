import Mathlib.Data.List.Induction
import Vivarium.Proofs.Source.Scan

/-!
# Muted texts

A reader that goes through a source character by character is always in one of five
modes: in code, behind a slash, in a comment, in a string literal, or behind a backslash
there.  The mode knows nothing of tokens.  A text is muted when the characters that are
met in a comment are left out; the two slashes in front of them and the line break behind
them stay.

The mode does for pieces of a text what the tokens do for the whole of it: what is left
of a piece only depends on the mode in which the piece starts.

Main definitions:

* `Mode`, `Mode.step`, `Mode.after`: the mode of a reader and how it goes on;
* `Mode.mute`: what is left of a text that is read in a mode;
* `muteOffset`: where an offset of a text is found in the muted text.

Main statements:

* `Mode.mute_append`: muting goes piece by piece;
* `Mode.advance_mute`: outside of comments muting keeps lines and columns;
* `mute_slice`: a slice of the muted text is the muted slice;
* `trim_mute`: muting and trimming can be exchanged.
-/

namespace Vivarium.Source

open Vivarium.Text (isBlank trim trimStart trimEnd)

/-- Where a reader is in a source. -/
inductive Mode where
  | code
  | slash
  | comment
  | quoted
  | escaped
  deriving Repr, DecidableEq

namespace Mode

/-- The mode behind one more character.  A line break ends everything. -/
def step : Mode → Char → Mode
  | .code, c => if c = '/' then .slash else if c = '"' then .quoted else .code
  | .slash, c => if c = '/' then .comment else if c = '"' then .quoted else .code
  | .comment, c => if c = '\n' then .code else .comment
  | .quoted, c =>
      if c = '"' then .code else if c = '\n' then .code
      else if c = '\\' then .escaped else .quoted
  | .escaped, c => if c = '\n' then .code else .quoted

/-- The mode behind a text. -/
def after (m : Mode) (text : List Char) : Mode := text.foldl step m

/-- The text without the characters that are met in a comment, line breaks apart. -/
def mute (m : Mode) : List Char → List Char
  | [] => []
  | c :: rest =>
      if m = .comment ∧ c ≠ '\n' then mute m rest else c :: mute (m.step c) rest

/-! ## One character -/

@[simp]
theorem after_nil (m : Mode) : m.after [] = m := rfl

@[simp]
theorem after_cons (m : Mode) (c : Char) (rest : List Char) :
    m.after (c :: rest) = (m.step c).after rest := rfl

theorem after_append (m : Mode) (first second : List Char) :
    m.after (first ++ second) = (m.after first).after second := List.foldl_append

@[simp]
theorem mute_nil (m : Mode) : m.mute [] = [] := rfl

/-- Outside of comments a character stays. -/
theorem mute_cons {m : Mode} (outside : m ≠ .comment) (c : Char) (rest : List Char) :
    m.mute (c :: rest) = c :: (m.step c).mute rest :=
  if_neg fun inside => outside inside.1

@[simp]
theorem mute_code_cons (c : Char) (rest : List Char) :
    mute .code (c :: rest) = c :: (step .code c).mute rest := rfl

@[simp]
theorem step_newline (m : Mode) : m.step '\n' = .code := by cases m <;> rfl

/-- A line break stays in every mode. -/
@[simp]
theorem mute_newline (m : Mode) (rest : List Char) :
    m.mute ('\n' :: rest) = '\n' :: mute .code rest := by
  rw [mute, if_neg fun ⟨_, other⟩ => other rfl, step_newline]

theorem step_comment {c : Char} (noBreak : c ≠ '\n') : step .comment c = .comment := if_neg noBreak

theorem mute_comment_cons {c : Char} (noBreak : c ≠ '\n') (rest : List Char) :
    mute .comment (c :: rest) = mute .comment rest := if_pos ⟨rfl, noBreak⟩

/-- A character that is no slash and no quotation mark keeps a reader in code. -/
theorem step_code {c : Char} (noSlash : c ≠ '/') (noQuote : c ≠ '"') : step .code c = .code := by
  rw [step, if_neg noSlash, if_neg noQuote]

/-- Only the second slash leads into a comment. -/
theorem eq_of_step_eq_comment {m : Mode} {c : Char} (opens : m.step c = .comment) :
    m = .comment ∧ c ≠ '\n' ∨ m = .slash ∧ c = '/' := by
  unfold step at opens
  grind

/-- A character does not lead from code into a comment. -/
theorem step_code_ne_comment (c : Char) : step .code c ≠ .comment := by
  intro opens
  rcases eq_of_step_eq_comment opens with ⟨same, -⟩ | ⟨same, -⟩ <;> cases same

/-! ## Pieces of a text -/

/-- Muting goes piece by piece. -/
theorem mute_append (m : Mode) (first second : List Char) :
    m.mute (first ++ second) = m.mute first ++ (m.after first).mute second := by
  induction first generalizing m with
  | nil => rfl
  | cons c rest inductionHypothesis =>
      rw [List.cons_append, mute, mute, after_cons]
      split
      · rename_i dropped
        obtain ⟨rfl, noBreak⟩ := dropped
        rw [inductionHypothesis, step_comment noBreak]
      · rw [inductionHypothesis, List.cons_append]

/-- A muted text has nothing left to mute. -/
@[simp]
theorem mute_mute (m : Mode) (text : List Char) : m.mute (m.mute text) = m.mute text := by
  induction text generalizing m with
  | nil => rfl
  | cons c rest inductionHypothesis =>
      rw [mute]
      split
      · exact inductionHypothesis m
      · rename_i kept
        rw [mute, if_neg kept, inductionHypothesis]

/-- Up to the end of the line a comment goes on. -/
theorem after_comment {text : List Char} (noBreak : '\n' ∉ text) :
    after .comment text = .comment := by
  induction text with
  | nil => rfl
  | cons c rest inductionHypothesis =>
      obtain ⟨other, noBreak⟩ := not_or.mp (mt List.mem_cons.mpr noBreak)
      rw [after_cons, step_comment (Ne.symm other), inductionHypothesis noBreak]

/-- Up to the end of the line nothing is left of a comment. -/
theorem mute_comment_line {text : List Char} (noBreak : '\n' ∉ text) :
    mute .comment text = [] := by
  induction text with
  | nil => rfl
  | cons c rest inductionHypothesis =>
      obtain ⟨other, noBreak⟩ := not_or.mp (mt List.mem_cons.mpr noBreak)
      rw [mute_comment_cons (Ne.symm other), inductionHypothesis noBreak]

/-- A piece of a line behind which no comment is open has no comment in it. -/
theorem mute_eq_self {m : Mode} {text : List Char} (noBreak : '\n' ∉ text)
    (closed : m.after text ≠ .comment) : m.mute text = text := by
  induction text generalizing m with
  | nil => rfl
  | cons c rest inductionHypothesis =>
      have outside : m ≠ .comment := by
        rintro rfl
        exact closed (after_comment noBreak)
      have noBreakLater : '\n' ∉ rest := fun later => noBreak (List.mem_cons_of_mem c later)
      rw [mute_cons outside, inductionHypothesis noBreakLater closed]

/-- The first character of a text outside of comments stays the first one. -/
theorem head?_mute {m : Mode} (outside : m ≠ .comment) (text : List Char) :
    (m.mute text).head? = text.head? := by
  cases text with
  | nil => rfl
  | cons c rest => rw [mute_cons outside]; rfl

/-- Outside of comments muting keeps lines and columns. -/
theorem advance_mute (m : Mode) (text : List Char) {p q : Position} (line : p.line = q.line)
    (column : m ≠ .comment → p.column = q.column) :
    (p.advance (m.mute text)).line = (q.advance text).line ∧
      (m.after text ≠ .comment →
        (p.advance (m.mute text)).column = (q.advance text).column) := by
  induction text generalizing m p q with
  | nil => exact ⟨line, column⟩
  | cons c rest inductionHypothesis =>
      rw [mute, after_cons, Position.advance_cons]
      split
      · rename_i dropped
        obtain ⟨rfl, noBreak⟩ := dropped
        rw [step_comment noBreak, Position.step, if_neg noBreak]
        exact inductionHypothesis .comment line fun outside => absurd rfl outside
      · rename_i kept
        rw [Position.advance_cons]
        apply inductionHypothesis
        · rw [Position.step, Position.step]
          split <;> simp only [line]
        · intro _
          rw [Position.step, Position.step]
          split
          · rfl
          · rename_i other
            simp only [column fun inside => kept ⟨inside, other⟩]

/-! ## Plain characters -/

/-- A text without slashes and quotation marks leaves a reader in code. -/
theorem after_code {text : List Char} (plain : ∀ c ∈ text, c ≠ '/' ∧ c ≠ '"') :
    after .code text = .code := by
  induction text with
  | nil => rfl
  | cons c rest inductionHypothesis =>
      obtain ⟨here, later⟩ := List.forall_mem_cons.mp plain
      rw [after_cons, step_code here.1 here.2, inductionHypothesis later]

/-- A text without slashes and quotation marks stays as it is. -/
theorem mute_code {text : List Char} (plain : ∀ c ∈ text, c ≠ '/' ∧ c ≠ '"') :
    mute .code text = text := by
  induction text with
  | nil => rfl
  | cons c rest inductionHypothesis =>
      obtain ⟨here, later⟩ := List.forall_mem_cons.mp plain
      rw [mute_code_cons, step_code here.1 here.2, inductionHypothesis later]

section Plain

variable {p : Char → Bool} (noSlash : p '/' = false) (noQuote : p '"' = false)

include noSlash noQuote

theorem ne_of_plain {c : Char} (holds : p c = true) : c ≠ '/' ∧ c ≠ '"' := by
  constructor <;>
  · rintro rfl
    simp_all

theorem takeWhile_mute (text : List Char) :
    (mute .code text).takeWhile p = text.takeWhile p := by
  induction text with
  | nil => rfl
  | cons c rest inductionHypothesis =>
      rw [mute_code_cons, List.takeWhile_cons, List.takeWhile_cons]
      split
      · rename_i holds
        obtain ⟨other, noMark⟩ := ne_of_plain noSlash noQuote holds
        rw [step_code other noMark, inductionHypothesis]
      · rfl

theorem dropWhile_mute (text : List Char) :
    (mute .code text).dropWhile p = mute .code (text.dropWhile p) := by
  induction text with
  | nil => rfl
  | cons c rest inductionHypothesis =>
      rw [mute_code_cons, List.dropWhile_cons, List.dropWhile_cons]
      split
      · rename_i holds
        obtain ⟨other, noMark⟩ := ne_of_plain noSlash noQuote holds
        rw [step_code other noMark, inductionHypothesis]
      · rfl

end Plain

/-! ## Trimming -/

/-- What is left of a text in which a comment was opened ends with the second slash. -/
theorem exists_mute_eq_append {m : Mode} (outside : m ≠ .comment) {text : List Char}
    (inside : m.after text = .comment) : ∃ front, m.mute text = front ++ ['/'] := by
  induction text using List.reverseRecOn with
  | nil => exact absurd inside outside
  | append_singleton front c inductionHypothesis =>
      rw [after_append, after_cons, after_nil] at inside
      rw [mute_append]
      rcases eq_of_step_eq_comment inside with ⟨open', noBreak⟩ | ⟨slash, rfl⟩
      · rw [open', mute_comment_cons noBreak, mute_nil, List.append_nil]
        exact inductionHypothesis open'
      · exact ⟨m.mute front, by rw [slash]; rfl⟩

end Mode

theorem trimEnd_concat (text : List Char) (c : Char) :
    trimEnd (text ++ [c]) = if isBlank c then trimEnd text else text ++ [c] := by
  rw [trimEnd, trimEnd, List.reverse_concat, List.dropWhile_cons]
  split
  · rfl
  · rw [← List.reverse_concat, List.reverse_reverse]

/-- Blanks at the end of a text are muted or stay at its end. -/
theorem trimEnd_mute {m : Mode} (outside : m ≠ .comment) (text : List Char) :
    trimEnd (m.mute text) = m.mute (trimEnd text) := by
  induction text using List.reverseRecOn with
  | nil => rfl
  | append_singleton front c inductionHypothesis =>
      rw [Mode.mute_append, trimEnd_concat]
      by_cases blank : isBlank c = true
      · rw [if_pos blank, ← inductionHypothesis, Mode.mute]
        split
        · rw [Mode.mute_nil, List.append_nil]
        · rw [Mode.mute_nil, trimEnd_concat, if_pos blank]
      · rw [if_neg blank, Mode.mute_append, Mode.mute]
        split
        · -- the text ends in a comment, and what is left of it with the slashes
          rename_i dropped
          obtain ⟨before, slash⟩ := Mode.exists_mute_eq_append outside dropped.1
          rw [Mode.mute_nil, List.append_nil, slash, trimEnd_concat, if_neg (by decide)]
        · rw [Mode.mute_nil, trimEnd_concat, if_neg blank]

/-- Muting and trimming can be exchanged. -/
theorem trim_mute (text : List Char) :
    trim (Mode.mute .code text) = Mode.mute .code (trim text) := by
  have start : trimStart (Mode.mute .code text) = Mode.mute .code (trimStart text) :=
    Mode.dropWhile_mute (by decide) (by decide) text
  rw [trim, start, trimEnd_mute (by decide)]
  rfl

/-! ## Offsets -/

/-- Where an offset of a text is found in the muted text. -/
def muteOffset (text : List Char) (offset : Nat) : Nat :=
  (Mode.mute .code (text.take offset)).length

theorem muteOffset_append (front rest : List Char) :
    muteOffset (front ++ rest) front.length = (Mode.mute .code front).length := by
  rw [muteOffset, List.take_left]

theorem muteOffset_length (text : List Char) :
    muteOffset text text.length = (Mode.mute .code text).length := by
  rw [muteOffset, List.take_length]

/-- An offset is moved by what is left of the text on the way. -/
theorem muteOffset_add (text : List Char) (start length : Nat) :
    muteOffset text (start + length) = muteOffset text start +
      ((Mode.after .code (text.take start)).mute ((text.drop start).take length)).length := by
  rw [muteOffset, List.take_add, Mode.mute_append, List.length_append, muteOffset]

theorem muteOffset_mono (text : List Char) {start stop : Nat} (ordered : start ≤ stop) :
    muteOffset text start ≤ muteOffset text stop := by
  obtain ⟨length, rfl⟩ := Nat.exists_eq_add_of_le ordered
  rw [muteOffset_add]
  exact Nat.le_add_right _ _

/-- A slice of the muted text is the muted slice. -/
theorem mute_slice (text : List Char) (start stop : Nat) :
    ((Mode.mute .code text).drop (muteOffset text start)).take
        (muteOffset text stop - muteOffset text start) =
      (Mode.after .code (text.take start)).mute ((text.drop start).take (stop - start)) := by
  rcases Nat.le_total start stop with ordered | reversed
  · obtain ⟨length, rfl⟩ := Nat.exists_eq_add_of_le ordered
    have divided : Mode.mute .code text =
        Mode.mute .code (text.take start) ++
          (Mode.after .code (text.take start)).mute (text.drop start) := by
      rw [← Mode.mute_append, List.take_append_drop]
    have behind := Mode.mute_append (Mode.after .code (text.take start))
      ((text.drop start).take length) ((text.drop start).drop length)
    rw [List.take_append_drop] at behind
    rw [divided, muteOffset_add, Nat.add_sub_cancel_left, Nat.add_sub_cancel_left, muteOffset,
      List.drop_left, behind, List.take_left]
  · rw [Nat.sub_eq_zero_of_le (muteOffset_mono text reversed), Nat.sub_eq_zero_of_le reversed]
    rfl

end Vivarium.Source
