import Vivarium.Proofs.Source.Assignment

/-!
# Reading declarations

The state section and the evolution section of a source list one declaration a line.
A declaration ends at its semicolon, so each line is read on its own, and the sections
give the declarations of their lines in the order of the lines.

Main definitions:

* `VariableDraft.pieces`, `SettingDraft.pieces`: the declarations token by token;
* `VariableDraft.statement`: the tokens of a declaration without its semicolon.

Main statements:

* `variables_of_lines`: the state section declares the variables of its lines;
* `settings_of_lines`: the evolution section gives the settings of its lines.
-/

namespace Vivarium.Source

/-! ## State variables -/

namespace VariableDraft

/-- What stands in front of the value of a declared variable. -/
def front (v : VariableDraft) : List Piece :=
  [v.name.piece, markPiece ':', .space, .token .identifier v.ty.name.toList, .space,
    .token .operator ['='], .space]

/-- The declaration of a variable, token by token. -/
def pieces (v : VariableDraft) : List Piece := v.value.assigned v.front

theorem toList_line (v : VariableDraft) : v.line.toList = written v.pieces := by
  simp [line, pieces, Literal.assigned, front, written_append, Literal.written_pieces,
    Literal.text, Name.piece, markPiece, Piece.text]

theorem legibleLine (v : VariableDraft) : LegibleLine v.pieces := by
  have type : Legible .identifier v.ty.name.toList
      (written ([.space, .token .operator ['='], .space] ++
        (v.value.pieces ++ [markPiece ';']))) := by
    have word : wordKind v.ty.name = .identifier ∧ isIdentifier v.ty.name = true := by
      cases v.ty <;> decide
    exact word.1 ▸ legible_word word.2 (head_stops (by decide) _)
  refine ⟨legible_name v.name (by decide) _, legible_mark (by decide) _, type,
    legible_operator (by decide) (by decide) ?_, v.value.legibleLine⟩
  rintro c ⟨⟩
  decide

theorem noBreak_front (v : VariableDraft) : '\n' ∉ written v.front := by
  have name := noBreak_of_isIdentifier v.name.legal
  have type : '\n' ∉ v.ty.name.toList := by cases v.ty <;> decide
  simp [front, Name.piece, markPiece, Piece.text, name, type]

/-- No declaration holds a brace. -/
theorem plain_tokens {v : VariableDraft} {place : Position} {t : Token}
    (member : t ∈ Piece.tokens place v.pieces) : t.IsPlain := by
  refine Literal.plain_assigned ?_ member
  simp only [front, Name.piece, markPiece, Piece.tokens, List.forall_mem_cons]
  refine ⟨⟨rfl, rfl⟩, ⟨rfl, rfl⟩, ⟨rfl, rfl⟩, ⟨rfl, rfl⟩, ?_⟩
  exact List.forall_mem_nil _

end VariableDraft

/-- A run of tokens on one line in front of a semicolon is a statement. -/
theorem statementsFrom_of_line {current statement : List Token} {line : Nat}
    (onLine : ∀ t ∈ current ++ statement, t.line = line)
    (goesOn : ∀ t ∈ statement, t.isPunctuation ";" = false)
    (nonempty : current ++ statement ≠ []) {semicolon : Token}
    (ends : semicolon.isPunctuation ";" = true) (rest : List Token) :
    statementsFrom current (statement ++ semicolon :: rest) =
      (current ++ statement) :: statementsFrom [] rest := by
  induction statement generalizing current with
  | nil =>
      rw [List.append_nil] at nonempty
      rw [List.nil_append, statementsFrom, if_pos ends, closeStatement,
        List.isEmpty_eq_false_iff.mpr nonempty, List.append_nil]
      rfl
  | cons t others inductionHypothesis =>
      -- the token joins the statement, as it starts no other line
      have here := onLine t (List.mem_append_right _ List.mem_cons_self)
      have sameLine : ¬(current.head?.any fun first => first.line ≠ t.line) = true := by
        cases current with
        | nil => simp
        | cons first earlier => simp [here, onLine first List.mem_cons_self]
      have regroup : current ++ t :: others = (current ++ [t]) ++ others := by
        rw [List.append_assoc, List.singleton_append]
      rw [regroup] at onLine nonempty
      rw [List.cons_append, statementsFrom, goesOn t List.mem_cons_self, if_neg sameLine,
        regroup, ← inductionHypothesis onLine
          (fun t member => goesOn t (List.mem_cons_of_mem _ member)) nonempty]
      rfl

/-- Without opening braces there are no blocks to leave out. -/
theorem withoutBlocks_of_flat {tokens : List Token}
    (flat : ∀ t ∈ tokens, t.opensBlock = false) : withoutBlocks 0 tokens = tokens := by
  induction tokens with
  | nil => rfl
  | cons t rest inductionHypothesis =>
      rw [withoutBlocks, flat t List.mem_cons_self,
        inductionHypothesis fun t member => flat t (List.mem_cons_of_mem _ member)]
      rfl

namespace VariableDraft

/-- The tokens of a declaration in front of its semicolon. -/
def statement (v : VariableDraft) (place : Position) : List Token :=
  Piece.tokens place v.front ++ v.value.valueTokens v.front place

/-- A declaration is read as the variable it declares. -/
theorem variableOf?_statement (v : VariableDraft) {source : List Char} {place : Position}
    (stands : Stands source place (written v.pieces)) :
    variableOf? source (v.statement place) = some { v.declared with line := place.line } := by
  have value := Literal.valueText_assigned stands
  obtain ⟨first, rest, spelled⟩ :=
    List.exists_cons_of_ne_nil (v.value.valueTokens_ne_nil v.front place)
  have coerced : coerce v.ty.name v.value.text = .number v.value.value := by
    have numeric : (decide (v.ty.name = "float") || decide (v.ty.name = "int")) = true := by
      cases v.ty <;> rfl
    rw [coerce, if_pos numeric, v.value.read?_text]
  rw [spelled] at value
  rw [statement, spelled]
  simp [front, Name.piece, markPiece, Piece.tokens, variableOf?, Token.is,
    Token.isPunctuation_spanning, value, coerced, declared]

/-- The tokens of a declaration in front of its semicolon are one statement. -/
theorem statementsFrom_tokens (v : VariableDraft) (place : Position) (rest : List Token) :
    statementsFrom [] (Piece.tokens place v.pieces ++ rest) =
      v.statement place :: statementsFrom [] rest := by
  have parts : Piece.tokens place v.pieces =
      v.statement place ++ [v.value.semicolon v.front place] := by
    rw [pieces, Literal.tokens_assigned, statement, List.append_assoc]
  have onLine : ∀ t ∈ [] ++ v.statement place, t.line = place.line := by
    intro t member
    have inLine : t ∈ Piece.tokens place v.pieces := by
      rw [parts]
      exact List.mem_append_left _ member
    exact Piece.line_tokens (v.value.noBreak_assigned v.noBreak_front) inLine
  have goesOn : ∀ t ∈ v.statement place, t.isPunctuation ";" = false := by
    intro t member
    rcases List.mem_append.mp member with inFront | inValue
    · simp only [front, Name.piece, markPiece, Piece.tokens, List.mem_cons, List.not_mem_nil,
        or_false] at inFront
      rcases inFront with rfl | rfl | rfl | rfl <;> rfl
    · exact Token.isPunctuation_of_kind (Literal.kind_tokens inValue) ";"
  rw [parts, List.append_assoc, List.singleton_append]
  exact statementsFrom_of_line onLine goesOn (List.cons_ne_nil _ _) rfl rest

end VariableDraft

/-- The lines of a state section hold no brace. -/
theorem plain_of_variables (declarations : List VariableDraft) (place : Position) :
    ∀ t ∈ tokensFrom place (unlines (declarations.map (·.line.toList))), t.IsPlain := by
  induction declarations generalizing place with
  | nil => simp
  | cons v others inductionHypothesis =>
      intro t member
      rw [List.map_cons, tokensFrom_unlines_cons, v.toList_line,
        tokensFrom_written v.legibleLine] at member
      rcases List.mem_append.mp member with here | behind
      · exact VariableDraft.plain_tokens here
      · exact inductionHypothesis _ t behind

/-- The state section declares the variables of its lines, in their order. -/
theorem variables_of_lines {source : List Char} (declarations : List VariableDraft)
    {place : Position}
    (stands : Stands source place (unlines (declarations.map (·.line.toList)))) :
    ((statements (tokensFrom place (unlines (declarations.map (·.line.toList))))).filterMap
        (variableOf? source)).map Variable.unplaced = declarations.map (·.declared) := by
  rw [statements, withoutBlocks_of_flat fun t member => (plain_of_variables _ _ t member).1]
  induction declarations generalizing place with
  | nil => simp [statementsFrom, closeStatement]
  | cons v others inductionHypothesis =>
      rw [List.map_cons] at stands ⊢
      obtain ⟨here, behind⟩ := stands.of_unlines_cons
      rw [v.toList_line] at here behind
      rw [tokensFrom_unlines_cons, v.toList_line, tokensFrom_written v.legibleLine,
        v.statementsFrom_tokens, List.filterMap_cons_some (v.variableOf?_statement here),
        List.map_cons, inductionHypothesis behind]
      rfl

/-! ## Settings -/

namespace SettingDraft

/-- What stands in front of the value of a setting. -/
def front (s : SettingDraft) : List Piece := [s.key.piece, markPiece ':', .space]

/-- A setting, token by token. -/
def pieces (s : SettingDraft) : List Piece := s.value.assigned s.front

theorem toList_line (s : SettingDraft) : s.line.toList = written s.pieces := by
  simp [line, pieces, Literal.assigned, front, written_append, Literal.written_pieces,
    Literal.text, Name.piece, markPiece, Piece.text]

theorem legibleLine (s : SettingDraft) : LegibleLine s.pieces :=
  ⟨legible_name s.key (by decide) _, legible_mark (by decide) _, s.value.legibleLine⟩

theorem noBreak_front (s : SettingDraft) : '\n' ∉ written s.front := by
  have key := noBreak_of_isIdentifier s.key.legal
  simp [front, Name.piece, markPiece, Piece.text, key]

/-- No setting of this form holds a brace. -/
theorem plain_tokens {s : SettingDraft} {place : Position} {t : Token}
    (member : t ∈ Piece.tokens place s.pieces) : t.IsPlain := by
  refine Literal.plain_assigned ?_ member
  simp only [front, Name.piece, markPiece, Piece.tokens, List.forall_mem_cons]
  refine ⟨⟨rfl, rfl⟩, ⟨rfl, rfl⟩, ?_⟩
  exact List.forall_mem_nil _

end SettingDraft

/-- A semicolon is punctuation and no brace. -/
theorem Token.plain_of_semicolon {t : Token} (mark : t.isPunctuation ";" = true) :
    t.kind = .punctuation ∧ t.IsPlain := by
  obtain ⟨kind, text⟩ := Bool.and_eq_true_iff.mp mark
  refine ⟨beq_iff_eq.mp kind, ?_, ?_⟩
  · rw [opensBlock, isPunctuation, is, beq_iff_eq.mp text]
    exact Bool.and_false _
  · rw [closesBlock, isPunctuation, is, beq_iff_eq.mp text]
    exact Bool.and_false _

/-- A semicolon between settings is passed over. -/
theorem settings_semicolon {semicolon : Token} (mark : semicolon.isPunctuation ";" = true)
    (source : List Char) (limit : Nat) (rest : List Token) :
    settings source limit (semicolon :: rest) = settings source limit rest := by
  obtain ⟨kind, opensNot, -⟩ := Token.plain_of_semicolon mark
  cases rest with
  | nil => simp [settings]
  | cons next others =>
      conv => lhs; rw [settings]
      simp [Token.isKeyword, Token.is, Token.isWord, kind, opensNot]

/-- A name, a colon and a value on one line in front of a semicolon are a setting. -/
theorem settings_of_line {key colon semicolon : Token} {value : List Token}
    (named : key.kind = .identifier) (assigns : colon.isPunctuation ":" = true)
    (nonempty : value ≠ []) (goesOn : ∀ t ∈ value, continuesValue key.line t = true)
    (ends : semicolon.isPunctuation ";" = true) (source : List Char) (limit : Nat)
    (rest : List Token) :
    settings source limit (key :: colon :: (value ++ semicolon :: rest)) =
      (key.text, ⟨valueText source value, key.line⟩) :: settings source limit rest := by
  have noGoal : (key.isKeyword "fitness_goal" && colon.opensBlock) = false := by
    simp [Token.isKeyword, Token.is, named]
  have isEntry : (key.isWord && colon.isPunctuation ":") = true := by
    simp [Token.isWord, named, assigns]
  have stops : ∀ t, (semicolon :: rest).head? = some t → continuesValue key.line t = false := by
    rintro t ⟨⟩
    rw [continuesValue, ends]
    rfl
  have run := takeWhile_append_of_stop goesOn stops
  rw [settings]
  simp only [noGoal, isEntry, run.1, run.2, List.isEmpty_eq_false_iff.mpr nonempty]
  rw [settings_semicolon ends]
  rfl

namespace SettingDraft

/-- The line of a setting is read as the setting. -/
theorem settings_tokens (s : SettingDraft) {source : List Char} {place : Position}
    (stands : Stands source place (written s.pieces)) (limit : Nat) (rest : List Token) :
    settings source limit (Piece.tokens place s.pieces ++ rest) =
      (s.key.text, ⟨s.value.text, place.line⟩) :: settings source limit rest := by
  have goesOn : ∀ t ∈ s.value.valueTokens s.front place,
      continuesValue place.line t = true := by
    intro t member
    have noMark := Token.isPunctuation_of_kind (Literal.kind_tokens member)
    simp [continuesValue, Token.opensBlock, Token.closesBlock, noMark,
      Literal.line_valueTokens s.noBreak_front member]
  have inFront : Piece.tokens place s.front =
      [Token.spanning .identifier place s.key.text.toList,
        Token.spanning .punctuation (place.advance s.key.text.toList) [':']] := rfl
  have named : (Token.spanning .identifier place s.key.text.toList).kind = .identifier := rfl
  have assigns : (Token.spanning .punctuation (place.advance s.key.text.toList)
      [':']).isPunctuation ":" = true := rfl
  have ends : (s.value.semicolon s.front place).isPunctuation ";" = true := rfl
  rw [pieces, Literal.tokens_assigned, List.append_assoc, List.append_assoc,
    List.singleton_append, inFront, List.cons_append, List.cons_append, List.nil_append,
    settings_of_line named assigns (s.value.valueTokens_ne_nil s.front place) goesOn ends,
    Literal.valueText_assigned stands, Token.text_spanning, String.ofList_toList]
  rfl

end SettingDraft

/-- The lines of settings hold no brace. -/
theorem plain_of_settings (entries : List SettingDraft) (place : Position) :
    ∀ t ∈ tokensFrom place (unlines (entries.map (·.line.toList))), t.IsPlain := by
  induction entries generalizing place with
  | nil => simp
  | cons s others inductionHypothesis =>
      intro t member
      rw [List.map_cons, tokensFrom_unlines_cons, s.toList_line,
        tokensFrom_written s.legibleLine] at member
      rcases List.mem_append.mp member with here | behind
      · exact SettingDraft.plain_tokens here
      · exact inductionHypothesis _ t behind

/-- The evolution section gives the settings of its lines, in their order, and goes on
behind them. -/
theorem settings_of_lines {source : List Char} (entries : List SettingDraft)
    {place : Position}
    (stands : Stands source place (unlines (entries.map (·.line.toList)))) (limit : Nat)
    (rest : List Token) :
    (settings source limit (tokensFrom place (unlines (entries.map (·.line.toList))) ++
        rest)).map unplacedEntry =
      entries.map (·.declared) ++ (settings source limit rest).map unplacedEntry := by
  induction entries generalizing place with
  | nil => simp
  | cons s others inductionHypothesis =>
      rw [List.map_cons] at stands ⊢
      obtain ⟨here, behind⟩ := stands.of_unlines_cons
      rw [s.toList_line] at here behind
      rw [tokensFrom_unlines_cons, s.toList_line, tokensFrom_written s.legibleLine,
        List.append_assoc, s.settings_tokens here, List.map_cons, inductionHypothesis behind]
      rfl

end Vivarium.Source
