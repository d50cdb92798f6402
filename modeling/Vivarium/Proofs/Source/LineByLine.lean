import Vivarium.Proofs.Source.Scan

/-!
# Tokens line by line

A text with a line break has the tokens in front of the break and those behind it;
the latter are the tokens of the text behind the break, moved by what stands in
front.  No token and no comment goes on behind a line break, so that the tokens on a
line are those of the line as a text of its own.

Main definitions:

* `lineBreaks`: the number of line breaks in a text.

Main statements:

* `newline_notMem_lexeme`: no lexeme covers a line break;
* `tokensFrom_append_of_lines`: whole lines in front of a text;
* `tokenize_lineByLine`: tokens, line breaks, and the tokens on a line.
-/

namespace Vivarium.Source

/-- The number of line breaks in a text. -/
def lineBreaks (text : String) : Nat := text.toList.count '\n'

/-- No lexeme covers a line break. -/
theorem newline_notMem_lexeme {first : Char} {rest : List Char}
    (starts : gapLength false (first :: rest) = 0) :
    '\n' ∉ first :: rest.take (lexeme first rest).more := by
  intro member
  rcases List.mem_cons.mp member with rfl | later
  · -- a line break is blank, so that a gap starts with it
    rw [gapLength, if_pos Text.isBlank_newline] at starts
    cases starts
  · obtain ⟨line, after, rfl, notBefore⟩ :=
      List.eq_append_cons_of_mem (List.mem_of_mem_take later)
    rw [lexeme_append_newline, List.take_append_of_le_length (lexeme_more_le first line)] at later
    exact notBefore (List.mem_of_mem_take later)

/-! ## Lines in front of a text and behind it -/

/-- A text is empty or ends with a line break. -/
def IsLines (text : List Char) : Prop := text = [] ∨ ∃ lines, text = lines ++ ['\n']

/-- Whole lines in front of a text do not touch its tokens. -/
theorem tokensFrom_append_of_lines {front : List Char} (whole : IsLines front)
    (place : Position) (rest : List Char) :
    tokensFrom place (front ++ rest) =
      tokensFrom place front ++ tokensFrom (place.advance front) rest := by
  rcases whole with rfl | ⟨lines, rfl⟩
  · rw [tokensFrom_nil]
    rfl
  · have own := tokensFrom_append_newline place lines []
    rw [tokensFrom_nil, List.append_nil] at own
    rw [own, List.append_assoc, List.singleton_append, tokensFrom_append_newline]

/-- Tokens stand on the lines of their text. -/
theorem line_of_mem_tokensFrom {place : Position} {text : List Char} {t : Token}
    (member : t ∈ tokensFrom place text) :
    place.line ≤ t.line ∧ t.line ≤ place.line + text.count '\n' := by
  obtain ⟨before, first, rest, rfl, -, rfl⟩ :=
    (scan_tokensFrom place text).lexeme_of_mem member
  show place.line ≤ (place.advance before).line ∧ (place.advance before).line ≤ _
  rw [Position.line_advance, List.count_append]
  omega

/-- The tokens in front of a line break stand on earlier lines. -/
theorem line_lt_of_mem_lines {front : List Char} (whole : IsLines front) {place : Position}
    {t : Token} (member : t ∈ tokensFrom place front) :
    t.line < place.line + front.count '\n' := by
  rcases whole with rfl | ⟨lines, rfl⟩
  · rw [tokensFrom_nil] at member
    cases member
  · rw [tokensFrom_append_newline, tokensFrom_nil, List.append_nil] at member
    have onLines := (line_of_mem_tokensFrom member).2
    rw [List.count_append, List.count_singleton_self]
    omega

/-- Of a text the tokens on a line are those of the line. -/
theorem filter_line_tokensFrom {front line after : List Char} (whole : IsLines front)
    (noBreak : '\n' ∉ line) (ends : after = [] ∨ ∃ rest, after = '\n' :: rest)
    (place : Position) :
    (tokensFrom place (front ++ (line ++ after))).filter
        (fun t => t.line = place.line + front.count '\n') =
      tokensFrom (place.advance front) line := by
  have here := Position.line_advance place front
  have inFront : (tokensFrom place front).filter
      (fun t => t.line = place.line + front.count '\n') = [] := by
    refine List.filter_eq_nil_iff.mpr ?_
    intro t member
    have earlier := line_lt_of_mem_lines whole member
    simp only [decide_eq_true_eq]
    omega
  have onLine : (tokensFrom (place.advance front) line).filter
      (fun t => t.line = place.line + front.count '\n') =
        tokensFrom (place.advance front) line := by
    refine List.filter_eq_self.mpr ?_
    intro t member
    have bounds := line_of_mem_tokensFrom member
    rw [here, List.count_eq_zero_of_not_mem noBreak] at bounds
    simp only [decide_eq_true_eq]
    omega
  rw [tokensFrom_append_of_lines whole, List.filter_append, inFront, List.nil_append]
  rcases ends with rfl | ⟨rest, rfl⟩
  · rw [List.append_nil, onLine]
  · have behind : (tokensFrom ((place.advance front).advance (line ++ ['\n'])) rest).filter
        (fun t => t.line = place.line + front.count '\n') = [] := by
      refine List.filter_eq_nil_iff.mpr ?_
      intro t member
      have later := (line_of_mem_tokensFrom member).1
      rw [Position.line_advance, here, List.count_append, List.count_singleton_self] at later
      simp only [decide_eq_true_eq]
      omega
    rw [tokensFrom_append_newline, List.filter_append, onLine, behind, List.append_nil]

/-! ## Whole texts -/

/-- The tokens of a text behind other ones are moved by these. -/
theorem tokensFrom_advance_start {front : List Char} (whole : IsLines front)
    (text : List Char) :
    tokensFrom (Position.start.advance front) text =
      (tokensFrom Position.start text).map (Token.moved front.length (front.count '\n')) := by
  have place : Position.start.advance front =
      Position.start.moved front.length (front.count '\n') := by
    rcases whole with rfl | ⟨lines, rfl⟩
    · rfl
    · rw [Position.advance_newline, List.length_append, List.count_append,
        List.count_singleton_self]
      simp only [Position.moved, Position.start, Position.mk.injEq, List.length_singleton,
        and_true]
      omega
  rw [place, tokensFrom_moved]

/-- Reading into tokens goes line by line.

* The tokens of a text with a line break are those in front of the break and those
  behind it; the latter are moved by the characters and the line breaks in front.
* No token covers a line break.
* The tokens on a line are those of the line as a text of its own, moved by the lines
  in front, whatever these are and whatever follows. -/
theorem tokenize_lineByLine :
    (∀ a b : String, tokenize (a ++ "\n" ++ b) =
      tokenize a ++ (tokenize b).map (Token.moved (a.length + 1) (lineBreaks a + 1))) ∧
    (∀ source : String, ∀ t ∈ tokenize source, '\n' ∉ t.span source.toList) ∧
    (∀ front line after : String, IsLines front.toList → '\n' ∉ line.toList →
      (after = "" ∨ ∃ rest, after = "\n" ++ rest) →
      (tokenize (front ++ line ++ after)).filter (fun t => t.line = lineBreaks front + 1) =
        (tokenize line).map (Token.moved front.length (lineBreaks front))) := by
  refine ⟨?_, ?_, ?_⟩
  · intro a b
    have whole : IsLines (a.toList ++ ['\n']) := Or.inr ⟨a.toList, rfl⟩
    have moved := tokensFrom_advance_start whole b.toList
    rw [List.length_append, List.count_append, List.count_singleton_self] at moved
    have spelled : (a ++ "\n" ++ b).toList = a.toList ++ '\n' :: b.toList := by simp
    rw [tokenize, spelled, tokensFrom_append_newline, moved]
    rfl
  · intro source t member
    obtain ⟨before, first, rest, divided, starts, rfl⟩ :=
      (scan_tokensFrom Position.start source.toList).lexeme_of_mem member
    rw [divided, Lexeme.span_at]
    exact newline_notMem_lexeme starts
  · intro front line after whole noBreak ends
    have spelled : (front ++ line ++ after).toList =
        front.toList ++ (line.toList ++ after.toList) := by simp
    have endsThere : after.toList = [] ∨ ∃ rest, after.toList = '\n' :: rest := by
      rcases ends with rfl | ⟨rest, rfl⟩
      · exact Or.inl rfl
      · exact Or.inr ⟨rest.toList, by simp⟩
    have onLine := filter_line_tokensFrom whole noBreak endsThere Position.start
    rw [tokensFrom_advance_start whole] at onLine
    rw [tokenize, spelled, lineBreaks, Nat.add_comm _ 1]
    exact onLine

/-- A literal that is still open behind a backslash, and a comment that opens another
one on the next line. -/
theorem tokenize_lineByLine_open :
    tokenize ("s = \"open\\" ++ "\n" ++ "t // \"") =
        tokenize "s = \"open\\" ++ (tokenize "t // \"").map (Token.moved 11 1) ∧
      (⟨.string, "open", 1, 4, 4, 6⟩ : Token) ∈ tokenize "s = \"open\\\nt // \"" ∧
      '\n' ∉ Token.span ⟨.string, "open", 1, 4, 4, 6⟩ "s = \"open\\\nt // \"".toList ∧
      (tokenize ("s = \"open\\\n" ++ "t // \"" ++ "\nu")).filter (fun t => t.line = 2) =
        (tokenize "t // \"").map (Token.moved 11 1) := by
  have whole : IsLines "s = \"open\\\n".toList := Or.inr ⟨"s = \"open\\".toList, by decide⟩
  have member : (⟨.string, "open", 1, 4, 4, 6⟩ : Token) ∈ tokenize "s = \"open\\\nt // \"" := by
    decide +kernel
  refine ⟨?_, member, ?_, ?_⟩
  · exact tokenize_lineByLine.1 "s = \"open\\" "t // \""
  · exact tokenize_lineByLine.2.1 _ _ member
  · exact tokenize_lineByLine.2.2 "s = \"open\\\n" "t // \"" "\nu" whole (by decide)
      (Or.inr ⟨"u", rfl⟩)

end Vivarium.Source
