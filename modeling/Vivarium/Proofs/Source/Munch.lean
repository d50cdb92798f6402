import Vivarium.Proofs.Source.Piece

/-!
# Longest lexemes

The first character of a lexeme decides of which kind it is, and the lexeme reaches as
far as its kind allows.  Reserved words are words, so that a word is read to its end
before it is asked whether it is reserved.  String literals stand apart: they end
where they are closed or where the line ends, and their text is not their span.

Longest is said of every longer text, not only of the next character: behind `1`
neither a point nor a digit is enough, but a point with a digit makes a longer number.

Main definitions:

* `IsNumeral`, `Token.Kind.Matches`: the texts that a kind may have;
* `Token.Kind.StartsWith`: the characters that a kind starts with;
* `IsMunch`, `Lexeme.Munches`: a lexeme that is the longest of its kind.

Main statements:

* `isMunch_word`, `isMunch_number`, `symbol_munches`;
* `lexeme_munches`: every lexeme but a string literal is the longest of its kind.
-/

namespace Vivarium.Source

/-! ## Texts of a kind -/

/-- Digits, and perhaps a point with digits behind it. -/
def IsNumeral (text : List Char) : Prop :=
  ∃ whole fraction : List Char, whole ≠ [] ∧ (∀ c ∈ whole, c.isDigit = true) ∧
    (∀ c ∈ fraction, c.isDigit = true) ∧ text = decimal whole fraction

namespace Token.Kind

/-- The texts that the tokens of a kind may have.  Keywords are identifiers that are
reserved; nothing is said about string literals. -/
def Matches : Kind → List Char → Prop
  | keyword, text => isIdentifier (String.ofList text) = true
  | identifier, text => isIdentifier (String.ofList text) = true
  | number, text => IsNumeral text
  | operator, text => (∃ c ∈ oneCharOperators, text = [c]) ∨
      ∃ pair ∈ twoCharOperators, text = [pair.1, pair.2]
  | punctuation, text => ∃ c, text = [c]
  | string, _ => True

/-- The characters that the tokens of a kind start with.  No two kinds share one, but
for keywords and identifiers. -/
def StartsWith : Kind → Char → Prop
  | keyword, c => isWordStart c = true
  | identifier, c => isWordStart c = true
  | number, c => c.isDigit = true
  | operator, c => c ∈ oneCharOperators
  | punctuation, c => c ≠ '"' ∧ c.isDigit = false ∧ isWordStart c = false ∧ c ∉ oneCharOperators
  | string, c => c = '"'

end Token.Kind

/-- A lexeme is of its kind, and no longer text in front of the same end is. -/
structure IsMunch (kind : Token.Kind) (first : Char) (more behind : List Char) : Prop where
  starts : kind.StartsWith first
  fits : kind.Matches (first :: more)
  longest : ∀ further, further <+: behind → kind.Matches (first :: (more ++ further)) →
    further = []
  /-- A word is a keyword if it is reserved. -/
  reserved : kind = .keyword ∨ kind = .identifier →
    (kind = .keyword ↔ String.ofList (first :: more) ∈ keywords)

/-- A text that starts in front of an end goes on with a character that the end starts
with. -/
theorem eq_nil_of_prefix {further behind : List Char} (inFront : further <+: behind)
    {p : Char → Prop} (every : ∀ c ∈ further, p c)
    (stops : ∀ c, behind.head? = some c → ¬p c) : further = [] := by
  cases further with
  | nil => rfl
  | cons c rest =>
      obtain ⟨after, rfl⟩ := inFront
      exact absurd (every c List.mem_cons_self) (stops c rfl)

theorem of_mem_takeWhile (p : Char → Bool) (text : List Char) :
    ∀ c ∈ text.takeWhile p, p c = true :=
  fun c member => List.all_eq_true.mp List.all_takeWhile c member

theorem stops_dropWhile (p : Char → Bool) (text : List Char) :
    ∀ c, (text.dropWhile p).head? = some c → ¬p c = true := by
  intro c next
  have stopped := List.head?_dropWhile_not p text
  rw [next] at stopped
  simpa using stopped

/-! ## Words -/

theorem isIdentifier_ofList {first : Char} {more : List Char} :
    isIdentifier (String.ofList (first :: more)) = true ↔
      isWordStart first = true ∧ ∀ c ∈ more, isWordPart c = true := by
  rw [isIdentifier, String.toList_ofList, Bool.and_eq_true, List.all_eq_true]

/-- A word is a keyword if it is reserved, and an identifier otherwise. -/
theorem wordKind_cases (text : String) :
    wordKind text = .keyword ∧ text ∈ keywords ∨
      wordKind text = .identifier ∧ text ∉ keywords := by
  unfold wordKind
  by_cases reserved : text ∈ keywords
  · exact Or.inl ⟨if_pos (List.contains_iff_mem.mpr reserved), reserved⟩
  · exact Or.inr ⟨if_neg (mt List.contains_iff_mem.mp reserved), reserved⟩

/-- A word reaches up to the first character that continues no word. -/
theorem isMunch_word {first : Char} (starts : isWordStart first = true) (rest : List Char) :
    IsMunch (wordKind (String.ofList (first :: rest.takeWhile isWordPart))) first
      (rest.takeWhile isWordPart) (rest.dropWhile isWordPart) := by
  have word : ∀ further, further <+: rest.dropWhile isWordPart →
      isIdentifier (String.ofList (first :: (rest.takeWhile isWordPart ++ further))) = true →
      further = [] := by
    intro further inFront legal
    refine eq_nil_of_prefix inFront ?_ (stops_dropWhile isWordPart rest)
    intro c member
    exact (isIdentifier_ofList.mp legal).2 c (List.mem_append_right _ member)
  have legal := isIdentifier_ofList.mpr ⟨starts, of_mem_takeWhile isWordPart rest⟩
  -- keywords and identifiers start and match alike
  rcases wordKind_cases (String.ofList (first :: rest.takeWhile isWordPart)) with
    ⟨kind, member⟩ | ⟨kind, notMember⟩
  · rw [kind]
    exact ⟨starts, legal, word, fun _ => ⟨fun _ => member, fun _ => rfl⟩⟩
  · rw [kind]
    exact ⟨starts, legal, word, fun _ => ⟨nofun, fun member => absurd member notMember⟩⟩

/-! ## Numbers -/

/-- A point with digits behind it, if there are any. -/
def pointed (fraction : List Char) : List Char :=
  if fraction.isEmpty then [] else '.' :: fraction

theorem decimal_eq (whole fraction : List Char) :
    decimal whole fraction = whole ++ pointed fraction := by
  unfold decimal pointed
  split
  · rw [List.append_nil]
  · rfl

/-- The point divides a number, or else its end if no digit follows it. -/
theorem divide_decimal {whole fraction further : List Char}
    (digits : ∀ c ∈ whole, c.isDigit = true)
    (next : fraction = [] → ∀ c, further.head? = some c → ¬c.isDigit = true) :
    (decimal whole fraction ++ further).takeWhile Char.isDigit = whole ∧
      (decimal whole fraction ++ further).dropWhile Char.isDigit =
        pointed fraction ++ further := by
  rw [decimal_eq, List.append_assoc]
  refine takeWhile_append_of_stop digits ?_
  intro c starts
  cases fraction with
  | nil => exact Bool.not_eq_true _ ▸ next rfl c starts
  | cons d others =>
      cases starts
      decide

/-- The parts of a number behind its first digit, and what follows the number. -/
structure NumberParts (rest whole fraction behind : List Char) : Prop where
  reads : numberTail rest = decimal whole fraction
  divided : rest = numberTail rest ++ behind
  wholeDigits : ∀ c ∈ whole, c.isDigit = true
  fractionDigits : ∀ c ∈ fraction, c.isDigit = true
  stops : ∀ c, behind.head? = some c → ¬c.isDigit = true
  /-- Without a fraction no digit follows a point. -/
  pointless : fraction = [] → ∀ d after, behind = '.' :: d :: after → ¬d.isDigit = true

/-- A number without a fraction ends with its first digits. -/
theorem NumberParts.of_whole {rest : List Char}
    (reads : numberTail rest = rest.takeWhile Char.isDigit)
    (pointless : ∀ d after, rest.dropWhile Char.isDigit = '.' :: d :: after →
      ¬d.isDigit = true) :
    NumberParts rest (rest.takeWhile Char.isDigit) [] (rest.dropWhile Char.isDigit) where
  reads := reads
  divided := by rw [reads, List.takeWhile_append_dropWhile]
  wholeDigits := of_mem_takeWhile Char.isDigit rest
  fractionDigits := List.forall_mem_nil _
  stops := stops_dropWhile Char.isDigit rest
  pointless := fun _ => pointless

/-- A number behind its first digit: digits, and a point with digits if a digit follows
the point. -/
theorem numberTail_parts (rest : List Char) :
    ∃ whole fraction behind, NumberParts rest whole fraction behind := by
  have parts := (List.takeWhile_append_dropWhile (p := Char.isDigit) (l := rest)).symm
  cases behind : rest.dropWhile Char.isDigit with
  | nil =>
      refine ⟨_, _, _, NumberParts.of_whole ?_ ?_⟩
      · rw [numberTail, behind]
      · rw [behind]
        intro d after impossible
        cases impossible
  | cons point others =>
      by_cases isPoint : point = '.'
      · subst isPoint
        cases others with
        | nil =>
            refine ⟨_, _, _, NumberParts.of_whole ?_ ?_⟩
            · rw [numberTail, behind]
              rfl
            · rw [behind]
              intro d after impossible
              cases impossible
        | cons d after =>
            by_cases digit : d.isDigit = true
            · have reads : numberTail rest =
                  rest.takeWhile Char.isDigit ++ '.' :: d :: after.takeWhile Char.isDigit := by
                rw [numberTail, behind]
                exact if_pos digit
              refine ⟨rest.takeWhile Char.isDigit, d :: after.takeWhile Char.isDigit,
                after.dropWhile Char.isDigit, ?_⟩
              exact {
                reads := reads
                divided := by
                  rw [reads, List.append_assoc, List.cons_append, List.cons_append,
                    List.takeWhile_append_dropWhile, ← behind]
                  exact parts
                wholeDigits := of_mem_takeWhile Char.isDigit rest
                fractionDigits :=
                  List.forall_mem_cons.mpr ⟨digit, of_mem_takeWhile Char.isDigit after⟩
                stops := stops_dropWhile Char.isDigit after
                pointless := fun none => absurd none (List.cons_ne_nil _ _) }
            · refine ⟨_, _, _, NumberParts.of_whole ?_ ?_⟩
              · rw [numberTail, behind]
                exact if_neg digit
              · rw [behind]
                rintro d after ⟨⟩
                exact digit
      · refine ⟨_, _, _, NumberParts.of_whole ?_ ?_⟩
        · rw [numberTail, behind]
          simp [isPoint]
        · rw [behind]
          rintro d after ⟨⟩
          exact absurd rfl isPoint

/-- A number reaches up to the first character that no longer number has there. -/
theorem isMunch_number {first : Char} (digit : first.isDigit = true) (rest : List Char) :
    ∃ behind, rest = numberTail rest ++ behind ∧
      IsMunch .number first (numberTail rest) behind := by
  obtain ⟨whole, fraction, behind, parts⟩ := numberTail_parts rest
  have firstDigits : ∀ c ∈ first :: whole, c.isDigit = true :=
    List.forall_mem_cons.mpr ⟨digit, parts.wholeDigits⟩
  have numeral : first :: numberTail rest = decimal (first :: whole) fraction := by
    rw [parts.reads, decimal_eq, decimal_eq, List.cons_append]
  refine ⟨behind, parts.divided, digit, ⟨first :: whole, fraction, List.cons_ne_nil _ _,
    firstDigits, parts.fractionDigits, numeral⟩, ?_, nofun⟩
  rintro further inFront ⟨others, fraction', -, othersDigits, fractionDigits, same⟩
  have next : ∀ c, further.head? = some c → ¬c.isDigit = true := by
    intro c starts
    obtain ⟨after, rfl⟩ := inFront
    cases further with
    | nil => cases starts
    | cons head tail => exact parts.stops c starts
  -- both numbers are divided at the same point, so that their fractions are compared
  have longer := divide_decimal othersDigits (fun _ => nofun : fraction' = [] →
    ∀ c, ([] : List Char).head? = some c → ¬c.isDigit = true)
  rw [List.append_nil, List.append_nil, ← same, ← List.cons_append, numeral] at longer
  have fractions : pointed fraction ++ further = pointed fraction' :=
    (divide_decimal firstDigits fun _ => next).2.symm.trans longer.2
  cases fraction with
  | nil =>
      cases fraction' with
      | nil => exact fractions
      | cons d tail =>
          have shape : further = '.' :: d :: tail := fractions
          obtain ⟨after, rfl⟩ := inFront
          rw [shape] at parts
          exact absurd (fractionDigits d List.mem_cons_self)
            (parts.pointless rfl d (tail ++ after) rfl)
  | cons d tail =>
      cases fraction' with
      | nil => cases fractions
      | cons d' tail' =>
          have shape : d :: tail ++ further = d' :: tail' := (List.cons.inj fractions).2
          refine eq_nil_of_prefix inFront ?_ parts.stops
          intro c member
          refine fractionDigits c ?_
          rw [← shape]
          exact List.mem_append_right _ member

/-! ## Operators and punctuation -/

/-- A longer operator than one character is one of two. -/
theorem Token.Kind.matches_operator {first second : Char} {further : List Char}
    (longer : Kind.Matches .operator (first :: second :: further)) :
    (first, second) ∈ twoCharOperators ∧ further = [] := by
  rcases longer with ⟨c, -, same⟩ | ⟨pair, member, same⟩
  · cases same
  · cases same
    exact ⟨member, rfl⟩

/-- A character alone is the longest of its kind if the next one does not make an
operator of both. -/
theorem isMunch_single {first : Char} {rest : List Char} (noQuote : first ≠ '"')
    (noDigit : first.isDigit = false) (noWord : isWordStart first = false)
    (alone : ∀ second, rest.head? = some second → (first, second) ∉ twoCharOperators) :
    IsMunch (if oneCharOperators.contains first then .operator else .punctuation) first []
      rest := by
  by_cases operator : first ∈ oneCharOperators
  · rw [if_pos (List.contains_iff_mem.mpr operator)]
    refine ⟨operator, Or.inl ⟨first, operator, rfl⟩, ?_, nofun⟩
    intro further inFront longer
    cases further with
    | nil => rfl
    | cons second others =>
        obtain ⟨after, rfl⟩ := inFront
        exact absurd (Token.Kind.matches_operator longer).1 (alone second rfl)
  · rw [if_neg (mt List.contains_iff_mem.mp operator)]
    refine ⟨⟨noQuote, noDigit, noWord, operator⟩, ⟨first, rfl⟩, ?_, nofun⟩
    rintro further - ⟨c, longer⟩
    cases longer
    rfl

/-- A lexeme covers a text that is the longest of its kind. -/
def Lexeme.Munches (lx : Lexeme) (first : Char) (rest : List Char) : Prop :=
  ∃ kind more behind, rest = more ++ behind ∧ lx = Lexeme.verbatim kind first more ∧
    IsMunch kind first more behind

/-- Two characters are an operator, or the first stands alone. -/
theorem symbol_munches {first : Char} (noQuote : first ≠ '"') (noDigit : first.isDigit = false)
    (noWord : isWordStart first = false) (rest : List Char) :
    (symbol first rest).Munches first rest := by
  have pairs : ∀ pair ∈ twoCharOperators, pair.1 ∈ oneCharOperators := by decide
  have single : (∀ second, rest.head? = some second → (first, second) ∉ twoCharOperators) →
      (if oneCharOperators.contains first then Lexeme.verbatim .operator first []
        else Lexeme.verbatim .punctuation first []).Munches first rest := by
    intro alone
    refine ⟨_, [], rest, rfl, ?_, isMunch_single noQuote noDigit noWord alone⟩
    split <;> rfl
  unfold symbol
  cases rest with
  | nil => exact single nofun
  | cons second after =>
      dsimp only
      by_cases double : (first, second) ∈ twoCharOperators
      · rw [if_pos (List.contains_iff_mem.mpr double)]
        refine ⟨.operator, [second], after, rfl, rfl, pairs _ double,
          Or.inr ⟨(first, second), double, rfl⟩, ?_, nofun⟩
        intro further _ longer
        exact (Token.Kind.matches_operator longer).2
      · rw [if_neg (mt List.contains_iff_mem.mp double)]
        refine single ?_
        rintro c ⟨⟩
        exact double

/-! ## Lexemes -/

/-- Every lexeme but a string literal is the longest of its kind. -/
theorem lexeme_munches {first : Char} (noQuote : first ≠ '"') (rest : List Char) :
    (lexeme first rest).Munches first rest := by
  rw [lexeme, if_neg noQuote]
  by_cases digit : first.isDigit = true
  · rw [if_pos digit]
    obtain ⟨behind, divided, munch⟩ := isMunch_number digit rest
    exact ⟨.number, numberTail rest, behind, divided, rfl, munch⟩
  · rw [if_neg digit]
    by_cases starts : isWordStart first = true
    · rw [if_pos starts]
      exact ⟨_, rest.takeWhile isWordPart, rest.dropWhile isWordPart,
        List.takeWhile_append_dropWhile.symm, rfl, isMunch_word starts rest⟩
    · rw [if_neg starts]
      exact symbol_munches noQuote (Bool.not_eq_true _ ▸ digit) (Bool.not_eq_true _ ▸ starts) rest

end Vivarium.Source
