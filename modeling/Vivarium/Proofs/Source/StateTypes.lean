import Vivarium.Proofs.Source.Reading

/-!
# The types of state variables

The outline and the reader both look for statements of the form `name : type = value`, the
outline in all tokens and the reader in the state sections.  They agree on where a statement
starts: behind a semicolon or a brace, or on a new line, so that the outline sees every
statement that the reader takes.  They do not agree on its form.  The outline asks for a
word, an identifier as the type, and four tokens in a row; the reader takes any token as
name and as type, and passes over blocks in between.  The type of a variable is known to be
one of the four where the statement is of the form that the outline asks for, and not
otherwise.

Main definitions:

* `StartsIn`: a token of a run that starts a statement there;
* `Variable.IsSaidBy`: a state variable and the statement that declares it.

Main statements:

* `startsIn_of_mem_statementsFrom`: the statements of the reader start where the outline
  looks for them;
* `mem_stateTypes_of_stateTypeErrors`: what the outline lets pass at such a place;
* `stateType_of_outline`: the types of the state variables of a source.
-/

namespace Vivarium.Source

/-! ## Where statements start -/

/-- The token stands in a run, behind the given token, and starts a statement there. -/
def StartsIn (previous : Option Token) (tokens : List Token) (t : Token) : Prop :=
  ∃ front behind, tokens = front ++ t :: behind ∧
    startsStatement (front.getLast?.or previous) t = true

/-- The token in front of a place, if it is not the first of the run. -/
theorem getLast?_cons_or (first : Token) (front : List Token) (previous : Option Token) :
    (first :: front).getLast?.or previous = front.getLast?.or (some first) := by
  rw [List.getLast?_cons]
  cases front.getLast? <;> rfl

theorem StartsIn.cons {first t : Token} {tokens : List Token}
    (starts : StartsIn (some first) tokens t) (previous : Option Token) :
    StartsIn previous (first :: tokens) t := by
  obtain ⟨front, behind, rfl, starts⟩ := starts
  rw [← getLast?_cons_or first front previous] at starts
  exact ⟨first :: front, behind, rfl, starts⟩

/-- What starts a statement behind a token does so in a longer run. -/
theorem StartsIn.within {first t : Token} {tokens : List Token}
    (starts : StartsIn (some first) tokens t) (before after : List Token) :
    StartsIn none (before ++ first :: (tokens ++ after)) t := by
  obtain ⟨front, behind, rfl, starts⟩ := starts
  refine ⟨before ++ first :: front, behind ++ after, ?_, ?_⟩
  · simp only [List.append_assoc, List.cons_append]
  · rwa [List.getLast?_append, Option.or_none, getLast?_cons_or]

/-- Every token that stands on another line than the statement so far starts a statement
behind the given token. -/
def Ready (previous : Option Token) (current : List Token) : Prop :=
  ∀ t : Token, (∀ first, current.head? = some first → first.line ≠ t.line) →
    startsStatement previous t = true

/-- Behind a brace or a semicolon every token starts a statement. -/
theorem ready_of_mark {t : Token}
    (mark : (t.isPunctuation ";" || t.opensBlock || t.closesBlock) = true)
    (current : List Token) : Ready (some t) current := by
  intro next _
  rw [startsStatement, Bool.or_assoc, Bool.or_assoc, ← Bool.or_assoc (t.isPunctuation ";"), mark]
  exact Bool.or_true _

/-- Behind a token on the line of a statement every token on another line starts one. -/
theorem ready_of_line {t : Token} {current : List Token}
    (onLine : ∀ first, current.head? = some first → first.line = t.line)
    (nonempty : current ≠ []) : Ready (some t) current := by
  intro next otherLine
  obtain ⟨first, rest, rfl⟩ := List.exists_cons_of_ne_nil nonempty
  have unlike := otherLine first rfl
  rw [onLine first rfl] at unlike
  simp [startsStatement, unlike]

theorem mem_closeStatement {current statement : List Token} {rest : List (List Token)} :
    statement ∈ closeStatement current rest ↔
      (current ≠ [] ∧ statement = current) ∨ statement ∈ rest := by
  cases current with
  | nil => simp [closeStatement]
  | cons t others => simp [closeStatement]

/-- What the reader does at a token outside of nested blocks: the statement so far is
closed, or the token ends it, or it starts another one, or it goes on. -/
theorem statementsFrom_cons_cases {current rest statement : List Token} {t : Token}
    (member : statement ∈ statementsFrom current (t :: rest)) :
    (current ≠ [] ∧ statement = current) ∨
    (t.isPunctuation ";" = true ∧ statement ∈ statementsFrom [] rest) ∨
    ((∀ first, current.head? = some first → first.line ≠ t.line) ∧
      statement ∈ statementsFrom [t] rest) ∨
    (current ≠ [] ∧ (∀ first, current.head? = some first → first.line = t.line) ∧
      statement ∈ statementsFrom (current ++ [t]) rest) := by
  rw [statementsFrom] at member
  split at member
  · rename_i ends
    exact (mem_closeStatement.mp member).imp_right fun later => Or.inl ⟨ends, later⟩
  · cases current with
    | nil =>
        refine Or.inr (Or.inr (Or.inl ⟨?_, member⟩))
        intro first impossible
        cases impossible
    | cons first others =>
        split at member
        · rename_i otherLine
          refine (mem_closeStatement.mp member).imp_right fun later => Or.inr (Or.inl ⟨?_, later⟩)
          intro first' head
          cases head
          simpa using otherLine
        · rename_i sameLine
          refine Or.inr (Or.inr (Or.inr ⟨List.cons_ne_nil _ _, ?_, member⟩))
          intro first' head
          cases head
          simpa using sameLine

/-- A statement of the reader goes on from the given start, or its first token starts a
statement in the tokens. -/
theorem startsIn_of_mem_statementsFrom {depth : Nat} {previous : Option Token}
    {current tokens statement : List Token} (ready : depth = 0 → Ready previous current)
    (member : statement ∈ statementsFrom current (withoutBlocks depth tokens)) :
    (current ≠ [] ∧ current <+: statement) ∨
      ∃ first, statement.head? = some first ∧ StartsIn previous tokens first := by
  induction tokens generalizing depth previous current with
  | nil =>
      rcases mem_closeStatement.mp member with ⟨nonempty, rfl⟩ | nothing
      · exact Or.inl ⟨nonempty, List.prefix_refl _⟩
      · cases nothing
  | cons t rest inductionHypothesis =>
      have behind : (∃ first, statement.head? = some first ∧ StartsIn (some t) rest first) →
          ∃ first, statement.head? = some first ∧ StartsIn previous (t :: rest) first :=
        fun ⟨first, head, starts⟩ => ⟨first, head, starts.cons previous⟩
      by_cases opens : t.opensBlock = true
      · -- nothing counts up to the end of the nested block
        simp only [withoutBlocks, if_pos opens] at member
        refine (inductionHypothesis ?_ member).imp_right behind
        intro outside
        cases outside
      cases depth with
      | succ outer =>
          simp only [withoutBlocks, if_neg opens] at member
          refine (inductionHypothesis ?_ member).imp_right behind
          intro outside
          split at outside
          · rename_i closes
            exact ready_of_mark (by rw [closes, Bool.or_true]) current
          · cases outside
      | zero =>
          simp only [withoutBlocks, if_neg opens] at member
          rcases statementsFrom_cons_cases member with
            ⟨nonempty, rfl⟩ | ⟨ends, later⟩ | ⟨otherLine, fresh⟩ | ⟨nonempty, sameLine, further⟩
          · exact Or.inl ⟨nonempty, List.prefix_refl _⟩
          · have onward := ready_of_mark (by rw [ends, Bool.true_or, Bool.true_or]) []
            rcases inductionHypothesis (fun _ => onward) later with ⟨nonempty, -⟩ | starts
            · exact absurd rfl nonempty
            · exact Or.inr (behind starts)
          · have onward : Ready (some t) [t] := ready_of_line (by simp) (List.cons_ne_nil _ _)
            rcases inductionHypothesis (fun _ => onward) fresh with ⟨-, others, rfl⟩ | starts
            · exact Or.inr ⟨t, rfl, [], rest, rfl, ready rfl t otherLine⟩
            · exact Or.inr (behind starts)
          · obtain ⟨first, others, rfl⟩ := List.exists_cons_of_ne_nil nonempty
            have onward : Ready (some t) (first :: others ++ [t]) :=
              ready_of_line sameLine (List.cons_ne_nil _ _)
            rcases inductionHypothesis (fun _ => onward) further with ⟨-, longer⟩ | starts
            · exact Or.inl ⟨nonempty, (List.prefix_append _ _).trans longer⟩
            · exact Or.inr (behind starts)

/-- All tokens of a statement stand on the line of its first one. -/
theorem line_of_mem_statementsFrom {current tokens statement : List Token}
    (onLine : ∀ first, current.head? = some first → ∀ t ∈ current, t.line = first.line)
    (member : statement ∈ statementsFrom current tokens) {first : Token}
    (head : statement.head? = some first) : ∀ t ∈ statement, t.line = first.line := by
  induction tokens generalizing current with
  | nil =>
      rcases mem_closeStatement.mp member with ⟨-, rfl⟩ | nothing
      · exact onLine first head
      · cases nothing
  | cons t rest inductionHypothesis =>
      rcases statementsFrom_cons_cases member with
        ⟨-, rfl⟩ | ⟨-, later⟩ | ⟨-, fresh⟩ | ⟨nonempty, sameLine, further⟩
      · exact onLine first head
      · exact inductionHypothesis (by simp) later
      · exact inductionHypothesis (by simp) fresh
      · obtain ⟨first', others, rfl⟩ := List.exists_cons_of_ne_nil nonempty
        refine inductionHypothesis ?_ further
        intro first'' same
        cases same
        refine List.forall_mem_append.mpr ⟨onLine first' rfl, ?_⟩
        exact List.forall_mem_singleton.mpr (sameLine first' rfl).symm

/-! ## What the outline lets pass -/

/-- Where a statement starts whose first four tokens have the form that the outline asks
for, the type is known. -/
theorem stateTypeError_of_stateTypeErrors {previous : Option Token} {front rest : List Token}
    {name colon ty assign : Token}
    (flawless : stateTypeErrors previous (front ++ name :: colon :: ty :: assign :: rest) = [])
    (starts : startsStatement (front.getLast?.or previous) name = true) :
    stateTypeError name colon ty assign = [] := by
  induction front generalizing previous with
  | nil =>
      obtain ⟨here, -⟩ := List.append_eq_nil_iff.mp flawless
      have first : startsStatement previous name = true := starts
      simpa only [if_pos first] using here
  | cons first others inductionHypothesis =>
      obtain ⟨-, behind⟩ := List.append_eq_nil_iff.mp flawless
      rw [getLast?_cons_or] at starts
      exact inductionHypothesis behind starts

/-- Four tokens of the form that the outline asks for give a known type. -/
theorem mem_stateTypes_of_stateTypeError {name colon ty assign : Token}
    (flawless : stateTypeError name colon ty assign = []) (word : name.isWord = true)
    (mark : colon.isPunctuation ":" = true) (kind : ty.kind = .identifier)
    (equals : assign.is .operator "=" = true) (line : assign.line = name.line) :
    ty.text ∈ stateTypes := by
  rw [stateTypeError, word, mark, equals, decide_eq_true kind, decide_eq_true line] at flawless
  split at flawless
  · cases flawless
  · rename_i known
    simpa using known

/-- Outside of nested blocks there are only tokens of the whole. -/
theorem withoutBlocks_subset (depth : Nat) (tokens : List Token) :
    withoutBlocks depth tokens ⊆ tokens := by
  intro u member
  induction tokens generalizing depth with
  | nil => cases member
  | cons t rest inductionHypothesis =>
      unfold withoutBlocks at member
      split at member
      · exact List.mem_cons_of_mem t (inductionHypothesis _ member)
      · cases depth with
        | zero =>
            rcases List.mem_cons.mp member with rfl | later
            · exact List.mem_cons_self
            · exact List.mem_cons_of_mem t (inductionHypothesis _ later)
        | succ outer => exact List.mem_cons_of_mem t (inductionHypothesis _ member)

/-- A statement is made of the tokens that are read and of those it started with. -/
theorem mem_of_mem_statementsFrom {current tokens statement : List Token}
    (member : statement ∈ statementsFrom current tokens) {u : Token} (inside : u ∈ statement) :
    u ∈ current ∨ u ∈ tokens := by
  induction tokens generalizing current with
  | nil =>
      rcases mem_closeStatement.mp member with ⟨-, rfl⟩ | nothing
      · exact Or.inl inside
      · cases nothing
  | cons t rest inductionHypothesis =>
      have later (front : List Token) (among : u ∈ front ∨ u ∈ rest)
          (fresh : ∀ v ∈ front, v = t ∨ v ∈ current) : u ∈ current ∨ u ∈ t :: rest := by
        rcases among with inFront | inRest
        · rcases fresh u inFront with rfl | old
          · exact Or.inr List.mem_cons_self
          · exact Or.inl old
        · exact Or.inr (List.mem_cons_of_mem t inRest)
      rcases statementsFrom_cons_cases member with
        ⟨-, rfl⟩ | ⟨-, fresh⟩ | ⟨-, alone⟩ | ⟨-, -, joined⟩
      · exact Or.inl inside
      · exact later [] (inductionHypothesis fresh) nofun
      · exact later [t] (inductionHypothesis alone) (by simp)
      · exact later (current ++ [t]) (inductionHypothesis joined) (by simp [or_comm])

theorem mem_of_mem_statements {tokens statement : List Token}
    (member : statement ∈ statements tokens) {u : Token} (inside : u ∈ statement) : u ∈ tokens := by
  rcases mem_of_mem_statementsFrom member inside with nothing | outside
  · cases nothing
  · exact withoutBlocks_subset 0 tokens outside

/-! ## State variables -/

/-- A state variable as a statement in a state section of the organism declares it. -/
structure Variable.IsSaidBy (source : String) (v : Variable) (name colon ty assign : Token)
    (value : List Token) : Prop where
  stands : ∃ s : Section, s.keyword.isKeyword "state" = true ∧
    s.IsMatched (tokenize source) 1 ∧
    name :: colon :: ty :: assign :: value ∈ statements s.block.inside
  mark : colon.isPunctuation ":" = true
  equals : assign.is .operator "=" = true
  named : v.name = name.text
  typed : v.ty = ty.text
  read : v.value = coerce ty.text (valueText source.toList value)
  placed : v.line = name.line

theorem Variable.IsSaidBy.subset_tokenize {source : String} {v : Variable}
    {name colon ty assign : Token} {value : List Token}
    (said : v.IsSaidBy source name colon ty assign value) :
    [name, colon, ty, assign] ⊆ tokenize source := by
  obtain ⟨s, -, whole, stands⟩ := said.stands
  intro t member
  refine whole.inside_isInfix.subset (mem_of_mem_statements stands ?_)
  exact List.mem_append_left value member

/-- What is found among the variables was there before or was declared. -/
theorem mem_values_foldl_insert {declarations : List Variable}
    {state : Directory String Variable} {v : Variable}
    (member : v ∈ (declarations.foldl (fun d w => d.insert w.name w) state).values) :
    v ∈ state.values ∨ v ∈ declarations := by
  induction declarations generalizing state with
  | nil => exact Or.inl member
  | cons w others inductionHypothesis =>
      rcases inductionHypothesis member with before | later
      · rcases Directory.mem_values_insert before with rfl | before
        · exact Or.inr List.mem_cons_self
        · exact Or.inl before
      · exact Or.inr (List.mem_cons_of_mem w later)

/-- The variables of a blueprint are declared by the statements of its state sections. -/
theorem exists_statement_of_mem_values {source : List Char} {found : List Section}
    {b : Blueprint} {v : Variable}
    (member : v ∈ (found.foldl (Blueprint.addSection source) b).state.values) :
    v ∈ b.state.values ∨ ∃ s ∈ found, s.keyword.text = "state" ∧
      ∃ statement ∈ statements s.block.inside, variableOf? source statement = some v := by
  induction found generalizing b with
  | nil => exact Or.inl member
  | cons s others inductionHypothesis =>
      rcases inductionHypothesis member with added | ⟨s', listed, declares⟩
      · rw [Blueprint.addSection] at added
        split at added
        · rename_i state
          rw [Blueprint.foldl_declare] at added
          refine (mem_values_foldl_insert added).imp_right fun declared => ?_
          obtain ⟨statement, listed, read⟩ := List.mem_filterMap.mp declared
          exact ⟨s, List.mem_cons_self, state, statement, listed, read⟩
        · refine Or.inl ?_
          split at added
          · exact added
          · split at added
            · exact added
            · rwa [Blueprint.foldl_set] at added
      · exact Or.inr ⟨s', List.mem_cons_of_mem s listed, declares⟩

/-- What a statement has to look like to declare a variable. -/
theorem variableOf?_eq_some {source : List Char} {statement : List Token} {v : Variable}
    (read : variableOf? source statement = some v) :
    ∃ name colon ty assign value, statement = name :: colon :: ty :: assign :: value ∧
      colon.isPunctuation ":" = true ∧ assign.is .operator "=" = true ∧
      v = ⟨name.text, ty.text, coerce ty.text (valueText source value), name.line⟩ := by
  unfold variableOf? at read
  split at read
  · rename_i name colon ty assign first rest
    split at read
    · rename_i form
      obtain ⟨mark, equals⟩ := Bool.and_eq_true_iff.mp form
      exact ⟨name, colon, ty, assign, first :: rest, rfl, mark, equals,
        (Option.some.inj read).symm⟩
    · cases read
  · cases read

/-- The statements of a section start where the outline looks for statements, and on one
line. -/
theorem Section.IsMatched.startsIn {s : Section} {tokens : List Token} {depth : Nat}
    (whole : s.IsMatched tokens depth) {name : Token} {rest : List Token}
    (member : name :: rest ∈ statements s.block.inside) :
    StartsIn none tokens name ∧ ∀ t ∈ rest, t.line = name.line := by
  obtain ⟨-, -, front, opening, closing, behind, rfl, -, opens, -⟩ := whole
  have ready : Ready (some opening) [] :=
    ready_of_mark (by rw [opens, Bool.or_true, Bool.true_or]) []
  refine ⟨?_, fun t listed => line_of_mem_statementsFrom (by simp) member rfl t
    (List.mem_cons_of_mem name listed)⟩
  rcases startsIn_of_mem_statementsFrom (fun _ => ready) member with
    ⟨nonempty, -⟩ | ⟨first, head, starts⟩
  · exact absurd rfl nonempty
  · obtain rfl : name = first := Option.some.inj head
    have further := starts.within (front ++ s.keyword :: s.header) (closing :: behind)
    rwa [List.append_assoc, List.cons_append] at further

/-- Where the first four tokens of a statement stand in a row, and have the form that the
outline asks for, the type is known. -/
theorem mem_stateTypes_of_infix {source : String} (sound : outlineErrors source = [])
    {name colon ty assign : Token} (starts : StartsIn none (tokenize source) name)
    (inRow : [name, colon, ty, assign] <:+: tokenize source) (word : name.isWord = true)
    (mark : colon.isPunctuation ":" = true) (kind : ty.kind = .identifier)
    (equals : assign.is .operator "=" = true) (line : assign.line = name.line) :
    ty.text ∈ stateTypes := by
  obtain ⟨front, behind, divided, starts⟩ := starts
  obtain ⟨front', behind', inRow⟩ := inRow
  have sameRow : tokenize source = front' ++ name :: colon :: ty :: assign :: behind' := by
    rw [← inRow]
    simp only [List.append_assoc, List.cons_append, List.nil_append]
  obtain ⟨rfl, -⟩ := place_unique divided sameRow
  have flawless := (tokenErrors_eq_nil_iff.mp sound).2.2
  rw [show tokenize source = _ from sameRow] at flawless
  exact mem_stateTypes_of_stateTypeError (stateTypeError_of_stateTypeErrors flawless starts)
    word mark kind equals line

/-- **The types of the state variables.**  Every state variable is declared by a statement
of a state section.  If the statement names the variable by a word and its type by an
identifier, and no block stands among its first four tokens, the type is one of the four. -/
theorem stateType_of_outline {source : String} (sound : outlineErrors source = []) :
    ∀ v ∈ (Blueprint.ofSource source).state.values,
      ∃ name colon ty assign value, v.IsSaidBy source name colon ty assign value ∧
        (name.isWord = true → ty.kind = .identifier →
          [name, colon, ty, assign] <:+: tokenize source → v.ty ∈ stateTypes) := by
  intro v member
  obtain ⟨d, found, reading⟩ := isReadFrom_of_outline sound
  rw [reading.read] at member
  rcases exists_statement_of_mem_values member with nothing | ⟨s, listed, state, statement,
    stands, read⟩
  · cases nothing
  · obtain ⟨name, colon, ty, assign, value, rfl, mark, equals, rfl⟩ := variableOf?_eq_some read
    obtain ⟨starts, whole⟩ := reading.matched s listed
    have keyword : s.keyword.isKeyword "state" = true := by
      rw [Token.isKeyword, Token.is, kind_of_startsSection starts, state]
      rfl
    obtain ⟨startsHere, onLine⟩ := whole.startsIn stands
    refine ⟨name, colon, ty, assign, value,
      ⟨⟨s, keyword, whole, stands⟩, mark, equals, rfl, rfl, rfl, rfl⟩, ?_⟩
    intro word kind inRow
    exact mem_stateTypes_of_infix sound startsHere inRow word mark kind equals
      (onLine assign (by simp))

/-- The variable of the shrew is declared by four tokens in a row, and its type is known. -/
theorem stateType_of_outline_shrew :
    outlineErrors shrew = [] ∧ (Blueprint.ofSource shrew).state.values.map (·.name) = ["x"] ∧
      ∀ v ∈ (Blueprint.ofSource shrew).state.values, ∃ name colon ty assign value,
        v.IsSaidBy shrew name colon ty assign value ∧ name.isWord = true ∧
          ty.kind = .identifier ∧ [name, colon, ty, assign] <:+: tokenize shrew ∧
          v.ty ∈ stateTypes := by
  have sound : outlineErrors shrew = [] := by decide +kernel
  refine ⟨sound, by decide +kernel, ?_⟩
  intro v member
  obtain ⟨name, colon, ty, assign, value, said, known⟩ := stateType_of_outline sound v member
  have declared : ∀ v ∈ (Blueprint.ofSource shrew).state.values, v.name = "x" ∧ v.ty = "float" := by
    decide +kernel
  -- each of the four tokens is the only one of its text among the tokens of the shrew
  have isName : ∀ t ∈ tokenize shrew, t.text = "x" → t = ⟨.identifier, "x", 1, 25, 25, 1⟩ := by
    decide +kernel
  have isColon : ∀ t ∈ tokenize shrew,
      t.isPunctuation ":" = true → t = ⟨.punctuation, ":", 1, 26, 26, 1⟩ := by
    decide +kernel
  have isType : ∀ t ∈ tokenize shrew,
      t.text = "float" → t = ⟨.identifier, "float", 1, 28, 28, 5⟩ := by
    decide +kernel
  have isAssign : ∀ t ∈ tokenize shrew,
      t.is .operator "=" = true → t = ⟨.operator, "=", 1, 34, 34, 1⟩ := by
    decide +kernel
  have among := said.subset_tokenize
  simp only [List.cons_subset, List.nil_subset, and_true] at among
  obtain ⟨inName, inColon, inType, inAssign⟩ := among
  obtain ⟨nameText, typeText⟩ := declared v member
  obtain rfl := isName name inName (said.named.symm.trans nameText)
  obtain rfl := isColon colon inColon said.mark
  obtain rfl := isType ty inType (said.typed.symm.trans typeText)
  obtain rfl := isAssign assign inAssign said.equals
  have inRow : [⟨.identifier, "x", 1, 25, 25, 1⟩, ⟨.punctuation, ":", 1, 26, 26, 1⟩,
      ⟨.identifier, "float", 1, 28, 28, 5⟩, ⟨.operator, "=", 1, 34, 34, 1⟩] <:+:
      tokenize shrew := by
    decide +kernel
  exact ⟨_, _, _, _, value, said, by decide, rfl, inRow, known (by decide) rfl inRow⟩

/-- A type between quotes is no identifier, so that the outline lets it pass, and the reader
takes it. -/
theorem stateType_of_outline_quoted :
    outlineErrors "organism A \x7b\n  state \x7b\n    x: \"double\" = 0.5;\n  \x7d\n\x7d" = [] ∧
      ∃ v ∈ (Blueprint.ofSource
        "organism A \x7b\n  state \x7b\n    x: \"double\" = 0.5;\n  \x7d\n\x7d").state.values,
        v.name = "x" ∧ v.ty = "double" ∧ v.ty ∉ stateTypes := by
  refine ⟨by decide +kernel, ⟨"x", "double", .text "0.5", 3⟩, ?_, by decide⟩
  decide +kernel

end Vivarium.Source
