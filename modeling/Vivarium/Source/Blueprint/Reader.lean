import Vivarium.Number.Numeral
import Vivarium.Source.Blueprint
import Vivarium.Source.Lexer

/-!
# Reading a blueprint from a source

The reader takes the first organism that is declared outside of all braces and
walks through the sections of its body.  It never fails: what it cannot make
sense of is passed over.  A block reaches to the brace that closes it; a block
that is never closed reaches to the end of the block around it, and its text to
the place where that one ends.

Gene bodies, the workflow and the fitness goal are taken from the source as they
stand, comments included, and trimmed.

Main definitions:

* `splitBlock`: a block and what follows it;
* `Section`, `sections`: the sections of an organism body;
* `statements`: the statements of a state section;
* `settings`: the entries of an evolution section;
* `Blueprint.ofTokens`, `Blueprint.ofSource`: the blueprint.
-/

namespace Vivarium.Source

open Vivarium.Text (trim isBlank)

/-- The trimmed characters of a source from one offset up to another. -/
def slice (source : List Char) (start stop : Nat) : String :=
  String.ofList (trim ((source.drop start).take (stop - start)))

/-! ## Blocks -/

/-- The tokens in front of the brace that closes the current block, and the
tokens from that brace on.  The number counts the blocks opened inside. -/
def splitClose : Nat → List Token → List Token × List Token
  | _, [] => ([], [])
  | depth, t :: rest =>
      if t.closesBlock then
        match depth with
        | 0 => ([], t :: rest)
        | outer + 1 =>
            let (inside, after) := splitClose outer rest
            (t :: inside, after)
      else
        let (inside, after) := splitClose (if t.opensBlock then depth + 1 else depth) rest
        (t :: inside, after)

theorem splitClose_append (depth : Nat) (tokens : List Token) :
    (splitClose depth tokens).1 ++ (splitClose depth tokens).2 = tokens := by
  induction tokens generalizing depth with
  | nil => rfl
  | cons t rest inductionHypothesis =>
      unfold splitClose
      split
      · split
        · rfl
        · simp [inductionHypothesis]
      · simp [inductionHypothesis]

/-- A block: the offset behind its opening brace, the tokens inside, and the
offset where its text ends. -/
structure Block where
  start : Nat
  inside : List Token
  stop : Nat
  deriving Repr

/-- The block opened by a brace, and the tokens behind it.  The limit is the
offset where a block ends that is never closed. -/
def splitBlock (limit : Nat) (brace : Token) (after : List Token) : Block × List Token :=
  match splitClose 0 after with
  | (inside, []) => (⟨brace.stop, inside, limit⟩, [])
  | (inside, close :: rest) => (⟨brace.stop, inside, close.offset⟩, rest)

theorem length_splitBlock_le (limit : Nat) (brace : Token) (after : List Token) :
    (splitBlock limit brace after).2.length ≤ after.length := by
  have whole := congrArg List.length (splitClose_append 0 after)
  rw [List.length_append] at whole
  unfold splitBlock
  split
  · exact Nat.zero_le _
  · rename_i inside close rest parts
    rw [parts, List.length_cons] at whole
    simp only
    omega

/-- The text of a block. -/
def Block.text (b : Block) (source : List Char) : String := slice source b.start b.stop

/-- The keywords in front of which a header ends. -/
def headerEnds : List String := ["organism", "state", "gene", "workflow", "evolution"]

/-- The token ends a header without opening a block. -/
def Token.endsHeader (t : Token) : Bool :=
  t.isPunctuation ";" || t.closesBlock || (t.kind = .keyword && headerEnds.contains t.text)

/-- A header with the brace behind it and the tokens after that, if a block
follows before the header ends. -/
def splitHeader? : List Token → Option (List Token × Token × List Token)
  | [] => none
  | t :: rest =>
      if t.opensBlock then some ([], t, rest)
      else if t.endsHeader then none
      else (splitHeader? rest).map fun (header, brace, after) => (t :: header, brace, after)

theorem length_splitHeader?_lt {tokens header after : List Token} {brace : Token}
    (found : splitHeader? tokens = some (header, brace, after)) :
    after.length < tokens.length := by
  induction tokens generalizing header with
  | nil => simp [splitHeader?] at found
  | cons t rest inductionHypothesis =>
      unfold splitHeader? at found
      split at found
      · cases found
        exact Nat.lt_succ_self _
      · split at found
        · cases found
        · obtain ⟨⟨tail, inner, after'⟩, split, parts⟩ := Option.map_eq_some_iff.mp found
          cases parts
          exact Nat.lt_succ_of_lt (inductionHypothesis split)

/-! ## Sections -/

/-- A section of an organism body: its keyword, the tokens up to its block, and
the block. -/
structure Section where
  keyword : Token
  header : List Token
  block : Block
  deriving Repr

/-- The keywords that start a section. -/
def startsSection (t : Token) : Bool :=
  t.kind = .keyword && ["state", "gene", "workflow", "evolution"].contains t.text

/-- The sections of a body that ends at the given offset.  A block without a
section keyword is passed over whole. -/
def sections (limit : Nat) : List Token → List Section
  | [] => []
  | t :: rest =>
      if t.opensBlock then
        have := length_splitBlock_le limit t rest
        sections limit (splitBlock limit t rest).2
      else if startsSection t then
        match _found : splitHeader? rest with
        | some (header, brace, after) =>
            have := length_splitHeader?_lt _found
            have := length_splitBlock_le limit brace after
            ⟨t, header, (splitBlock limit brace after).1⟩ ::
              sections limit (splitBlock limit brace after).2
        | none => sections limit rest
      else sections limit rest
termination_by tokens => tokens.length
decreasing_by all_goals (simp only [List.length_cons]; omega)

/-! ## State variables -/

/-- The tokens outside of all nested blocks.  The number counts the blocks that
are open. -/
def withoutBlocks : Nat → List Token → List Token
  | _, [] => []
  | depth, t :: rest =>
      if t.opensBlock then withoutBlocks (depth + 1) rest
      else
        match depth with
        | 0 => t :: withoutBlocks 0 rest
        | outer + 1 => withoutBlocks (if t.closesBlock then outer else outer + 1) rest

/-- A statement in front of others; an empty one is none. -/
def closeStatement (current : List Token) (rest : List (List Token)) : List (List Token) :=
  if current.isEmpty then rest else current :: rest

/-- The statements of a run of tokens behind the given start of a statement.  A
statement ends at a semicolon or in front of a token on another line than its
first one. -/
def statementsFrom (current : List Token) : List Token → List (List Token)
  | [] => closeStatement current []
  | t :: rest =>
      if t.isPunctuation ";" then closeStatement current (statementsFrom [] rest)
      else if current.head?.any fun first => first.line ≠ t.line then
        closeStatement current (statementsFrom [t] rest)
      else statementsFrom (current ++ [t]) rest

/-- The statements of a block, nested blocks left out. -/
def statements (tokens : List Token) : List (List Token) :=
  statementsFrom [] (withoutBlocks 0 tokens)

/-- The text of a value: a single token stands for its own text, so that a string
literal gives its contents; several stand for the source from the first to the
last. -/
def valueText (source : List Char) : List Token → String
  | [] => ""
  | [single] => single.text
  | first :: second :: rest =>
      slice source first.offset ((second :: rest).getLast (List.cons_ne_nil _ _)).stop

/-- A value read according to its declared type.  A number or truth value that
cannot be read stays a text. -/
def coerce (ty text : String) : Datum :=
  if ty = "float" || ty = "int" then
    match Number.read? text.toList with
    | some x => .number x
    | none => .text text
  else if ty = "bool" then
    if text = "true" || text = "True" then .number 1.0
    else if text = "false" || text = "False" then .number 0.0
    else .text text
  else .text text

/-- The state variable that a statement of the form `name : type = value`
declares. -/
def variableOf? (source : List Char) : List Token → Option Variable
  | name :: colon :: ty :: assign :: first :: rest =>
      if colon.isPunctuation ":" && assign.is .operator "=" then
        some ⟨name.text, ty.text, coerce ty.text (valueText source (first :: rest)), name.line⟩
      else none
  | _ => none

/-! ## Genes -/

/-- A text behind a word that it starts with. -/
def behindWord? (word : String) (text : List Char) : Option (List Char) :=
  if word.toList.isPrefixOf text then some (text.drop word.length) else none

/-- The identifier that starts a text. -/
def leadingIdentifier? (text : List Char) : Option (List Char) :=
  match text with
  | first :: rest =>
      if isWordStart first then some (first :: rest.takeWhile isWordPart) else none
  | [] => none

/-- The identifier of a line of the form `category : identifier`, or with `type`
in place of `category`, blanks allowed before and after each part. -/
def categoryAt? (text : List Char) : Option (List Char) := do
  let text := text.dropWhile isBlank
  let afterWord ← (behindWord? "category" text) <|> (behindWord? "type" text)
  match afterWord.dropWhile isBlank with
  | ':' :: rest => leadingIdentifier? (rest.dropWhile isBlank)
  | _ => none

/-- The first category that is given at the start of a line.  The flag tells that
the text starts a line. -/
def bodyCategory? (lineStart : Bool) (text : List Char) : Option (List Char) :=
  match if lineStart then categoryAt? text else none, text with
  | some category, _ => some category
  | none, [] => none
  | none, c :: rest => bodyCategory? (c = '\n') rest

/-- A text in lower case, as far as it is ASCII. -/
def lowerCase (text : String) : String := String.ofList (text.toList.map Char.toLower)

/-- The token behind the first colon of a gene header. -/
def headerCategory? : List Token → Option Token
  | [] => none
  | t :: rest => if t.isPunctuation ":" then rest.head? else headerCategory? rest

/-- The gene that a section declares.  Its category stands in the header behind a
colon or else in the body, and is the default one if it stands nowhere. -/
def Section.gene (s : Section) (source : List Char) : GeneDeclaration :=
  let name := (s.header.head?.filter fun t => !t.isPunctuation ":").map (·.text)
  let body := s.block.text source
  let inHeader := (headerCategory? s.header).map (·.text)
  let inBody := (bodyCategory? true body.toList).map String.ofList
  let category := ((inHeader <|> inBody).map lowerCase).getD defaultCategory
  ⟨name.getD "", category, body, s.keyword.line⟩

/-! ## Evolution settings -/

/-- The token belongs to a setting's value that starts on the given line. -/
def continuesValue (line : Nat) (t : Token) : Bool :=
  !(t.isPunctuation ";" || t.opensBlock || t.closesBlock) && t.line = line

/-- The settings of an evolution section that ends at the given offset, in the
order of the source.  A setting without a value is none. -/
def settings (source : List Char) (limit : Nat) : List Token → List (String × Setting)
  | [] => []
  | [_] => []
  | t :: next :: rest =>
      if t.isKeyword "fitness_goal" && next.opensBlock then
        have := length_splitBlock_le limit next rest
        ("fitness_goal", ⟨(splitBlock limit next rest).1.text source, t.line⟩) ::
          settings source limit (splitBlock limit next rest).2
      else if t.isWord && next.isPunctuation ":" then
        have := (List.dropWhile_suffix (continuesValue t.line) (l := rest)).length_le
        let value := rest.takeWhile (continuesValue t.line)
        let others := settings source limit (rest.dropWhile (continuesValue t.line))
        if value.isEmpty then others
        else (t.text, ⟨valueText source value, t.line⟩) :: others
      else if t.opensBlock then
        have := length_splitBlock_le limit t (next :: rest)
        settings source limit (splitBlock limit t (next :: rest)).2
      else settings source limit (next :: rest)
termination_by tokens => tokens.length
decreasing_by all_goals (simp only [List.length_cons] at *; omega)

/-! ## The blueprint -/

/-- The workflow with another block added on a line of its own.  Blocks without
text add nothing. -/
def joinWorkflow (workflow text : String) : String :=
  if workflow.isEmpty then text
  else if text.isEmpty then workflow
  else workflow ++ "\n" ++ text

/-- The blueprint with what a section declares. -/
def Blueprint.addSection (source : List Char) (b : Blueprint) (s : Section) : Blueprint :=
  if s.keyword.text = "state" then
    ((statements s.block.inside).filterMap (variableOf? source)).foldl Blueprint.declare b
  else if s.keyword.text = "gene" then
    { b with genes := b.genes ++ [s.gene source] }
  else if s.keyword.text = "workflow" then
    { b with workflow := joinWorkflow b.workflow (s.block.text source) }
  else
    (settings source s.block.stop s.block.inside).foldl
      (fun b entry => b.set entry.1 entry.2) b

/-- The tokens from the first `organism` keyword outside of all braces on.  A
closing brace without a partner leaves the depth at zero. -/
def organismTokens (depth : Nat) : List Token → List Token
  | [] => []
  | t :: rest =>
      if t.opensBlock then organismTokens (depth + 1) rest
      else if t.closesBlock then organismTokens (depth - 1) rest
      else if depth = 0 && t.isKeyword "organism" then t :: rest
      else organismTokens depth rest

/-- The sections of the organism declared by the given tokens, which stand behind
its keyword. -/
def bodySections (source : List Char) (tokens : List Token) : List Section :=
  match splitHeader? tokens with
  | some (_, brace, after) =>
      let (body, _) := splitBlock source.length brace after
      sections body.stop body.inside
  | none => []

/-- The blueprint of a source with the given tokens. -/
def Blueprint.ofTokens (source : List Char) (tokens : List Token) : Blueprint :=
  match organismTokens 0 tokens with
  | [] => Blueprint.empty
  | keyword :: rest =>
      let name := (rest.head?.filter fun t => !t.opensBlock).map (·.text)
      let start := { Blueprint.empty with name := name.getD "", line := keyword.line }
      (bodySections source rest).foldl (Blueprint.addSection source) start

/-- The blueprint of a source. -/
def Blueprint.ofSource (source : String) : Blueprint :=
  Blueprint.ofTokens source.toList (tokenize source)

end Vivarium.Source
