import Vivarium.Proofs.Source.BlockLines
import Vivarium.Proofs.Source.Declaration

/-!
# Writing and reading back

A draft that is written as a source and read again is the draft: the reader finds its
sections one behind the other, however strange the texts inside them are, takes the
declarations from their lines and cuts the texts out of the source character for
character.  Only the lines of the declarations are the reader's own.

Main definitions:

* `Adds`: lines of an organism body that change the blueprint by a given step,
  whatever lines follow.

Main statements:

* `Adds.of_block`, `Adds.append`: one section, and one behind the other;
* `adds_body`: the lines of a draft's body add what the draft says;
* `ofSource_source`: reading undoes writing.
-/

namespace Vivarium.Source

/-! ## Lines that add something -/

/-- Lines of an organism body are balanced and change a blueprint by a step, whatever
lines stand around them. -/
structure Adds (lines : List (List Char)) (step : Blueprint → Blueprint) : Prop where
  balanced : ∀ place, Balanced (tokensFrom place (unlines lines))
  found : ∀ {source : List Char} {place : Position}, Stands source place (unlines lines) →
    ∀ (limit : Nat) (rest : List Token), ∃ own : List Section,
      sections limit (tokensFrom place (unlines lines) ++ rest) = own ++ sections limit rest ∧
      ∀ b : Blueprint, (own.foldl (Blueprint.addSection source) b).unplaced = step b.unplaced

/-- The section that is read from the lines of a block behind a keyword. -/
def sectionAt (keyword : String) (heading : List Piece) (inside : List (List Char))
    (place : Position) : Section where
  keyword := Token.spanning .keyword place keyword.toList
  header := Piece.tokens (place.advance keyword.toList) heading
  block :=
    { start := (opening (reservedPiece keyword :: heading) place).stop
      inside := tokensFrom (inner (reservedPiece keyword :: heading) place) (unlines inside)
      stop := (closing (reservedPiece keyword :: heading) inside place).offset }

/-- The text of a section that holds a text on lines of its own. -/
theorem Stands.text_sectionAt {source : List Char} {place : Position} {keyword : String}
    {heading : List Piece} {text : Prose}
    (stands : Stands source place
      (unlines (blockLines (reservedPiece keyword :: heading) [text.text.toList]))) :
    (sectionAt keyword heading [text.text.toList] place).block.text source = text.text :=
  stands.slice_prose

/-- A keyword alone is written as its piece. -/
theorem spelled_reserved (keyword : String) : keyword.toList = written [reservedPiece keyword] := by
  rw [written_cons, written_nil, List.append_nil]
  rfl

/-- A header of a keyword alone is legible. -/
theorem legible_bare {keyword : String} (reserved : keyword ∈ keywords) :
    LegibleLine ([reservedPiece keyword] ++ [.space, markPiece '\x7b']) :=
  ⟨legible_reserved reserved (by decide) _, legible_mark (by decide) [], trivial⟩

namespace Adds

theorem nil : Adds [] id where
  balanced := by
    intro place
    rw [unlines_nil, tokensFrom_nil]
    exact Balanced.nil
  found := by
    intro source place stands limit rest
    refine ⟨[], ?_, fun b => rfl⟩
    rw [unlines_nil, tokensFrom_nil]
    rfl

/-- Lines behind other lines add their own step. -/
theorem append {lines others : List (List Char)} {first second : Blueprint → Blueprint}
    (one : Adds lines first) (other : Adds others second) :
    Adds (lines ++ others) (second ∘ first) where
  balanced := by
    intro place
    rw [tokensFrom_unlines_append]
    exact (one.balanced place).append (other.balanced _)
  found := by
    intro source place stands limit rest
    rw [unlines_append, stands_append] at stands
    -- the first lines are followed by the tokens of the others and by what follows those
    obtain ⟨otherOwn, otherSections, otherStep⟩ := other.found stands.2 limit rest
    obtain ⟨own, ownSections, ownStep⟩ := one.found stands.1 limit
      (tokensFrom (place.advance (unlines lines)) (unlines others) ++ rest)
    refine ⟨own ++ otherOwn, ?_, ?_⟩
    · rw [tokensFrom_unlines_append, List.append_assoc, ownSections, otherSections,
        List.append_assoc]
    · intro b
      rw [List.foldl_append, otherStep, ownStep]
      rfl

/-- A section whose inside is balanced adds what its section declares. -/
theorem of_block {keyword : String} {heading : List Piece} {inside : List (List Char)}
    {step : Blueprint → Blueprint}
    (starts : keyword ∈ ["state", "gene", "workflow", "evolution"])
    (legible : LegibleLine (reservedPiece keyword :: heading ++ [.space, markPiece '\x7b']))
    (header : ∀ place, ∀ t ∈ Piece.tokens place heading, t.IsHeading)
    (balanced : ∀ place, Balanced (tokensFrom place (unlines inside)))
    (adds : ∀ {source : List Char} {place : Position},
      Stands source place (unlines (blockLines (reservedPiece keyword :: heading) inside)) →
      ∀ b : Blueprint, (b.addSection source (sectionAt keyword heading inside place)).unplaced =
        step b.unplaced) :
    Adds (blockLines (reservedPiece keyword :: heading) inside) step where
  balanced := by
    intro place
    refine balanced_blockLines legible ?_ (balanced _)
    intro t member
    rcases List.mem_cons.mp member with rfl | later
    · exact ⟨rfl, rfl⟩
    · exact (header _ t later).isPlain
  found := by
    intro source place stands limit rest
    have startsHere : startsSection (Token.spanning .keyword place keyword.toList) = true := by
      simp only [startsSection, Token.kind_spanning, Token.text_spanning, String.ofList_toList,
        List.contains_iff_mem.mpr starts]
      rfl
    refine ⟨[sectionAt keyword heading inside place], ?_, adds stands⟩
    rw [tokensFrom_blockLines legible, List.append_assoc, List.cons_append, List.append_assoc,
      List.singleton_append]
    exact sections_of_balanced startsHere (header _) rfl (balanced _) rfl limit rest

/-- A section whose header is its keyword alone. -/
theorem of_bare_block {keyword : String} {inside : List String}
    {step : Blueprint → Blueprint}
    (starts : keyword ∈ ["state", "gene", "workflow", "evolution"])
    (balanced : ∀ place, Balanced (tokensFrom place (unlines (inside.map String.toList))))
    (adds : ∀ {source : List Char} {place : Position},
      Stands source place
        (unlines (blockLines [reservedPiece keyword] (inside.map String.toList))) →
      ∀ b : Blueprint,
        (b.addSection source (sectionAt keyword [] (inside.map String.toList) place)).unplaced =
          step b.unplaced) :
    Adds ((block keyword inside).map String.toList) step := by
  have reserved : ∀ keyword ∈ ["state", "gene", "workflow", "evolution"],
      keyword ∈ keywords := by decide
  rw [map_block (spelled_reserved keyword)]
  refine of_block starts (legible_bare (reserved keyword starts)) ?_ balanced adds
  intro place t member
  cases member

end Adds

/-! ## The sections of a draft -/

/-- The state section declares the variables of a draft. -/
theorem adds_state (declarations : List VariableDraft) :
    Adds ((block "state" (declarations.map VariableDraft.line)).map String.toList)
      fun b => (declarations.map (·.declared)).foldl Blueprint.declare b := by
  have sameLines : (declarations.map VariableDraft.line).map String.toList =
      declarations.map (·.line.toList) := List.map_map
  refine Adds.of_bare_block (by decide) ?_ ?_
  · intro place
    rw [sameLines]
    exact Balanced.of_plain (plain_of_variables declarations place)
  · intro source place stands b
    rw [sameLines] at stands ⊢
    have read := variables_of_lines declarations stands.inside_blockLines
    rw [← read]
    exact Blueprint.unplaced_foldl_declare _ b

/-- The tokens of a gene header behind the keyword, token by token. -/
def GeneDraft.heading (g : GeneDraft) : List Piece :=
  [.space, g.name.piece, markPiece ':', .space, g.category.piece]

/-- A gene section declares its gene. -/
theorem adds_gene (g : GeneDraft) :
    Adds (g.lines.map String.toList) fun b => { b with genes := b.genes ++ [g.declared] } := by
  have spelled : ("gene " ++ g.name.text ++ ": " ++ g.category.text).toList =
      written (reservedPiece "gene" :: g.heading) := by
    simp [reservedPiece, GeneDraft.heading, Name.piece, markPiece, Piece.text]
  have reserved : "gene" ∈ keywords := by decide
  have legible : LegibleLine
      (reservedPiece "gene" :: g.heading ++ [.space, markPiece '\x7b']) :=
    ⟨legible_reserved reserved (by decide) _, legible_name g.name (by decide) _,
      legible_mark (by decide) _, legible_name g.category (by decide) _,
      legible_mark (by decide) [], trivial⟩
  have header : ∀ place, ∀ t ∈ Piece.tokens place g.heading, t.IsHeading := by
    intro place
    simp only [GeneDraft.heading, Name.piece, markPiece, Piece.tokens, List.forall_mem_cons]
    refine ⟨⟨rfl, rfl⟩, ⟨rfl, rfl⟩, ⟨rfl, rfl⟩, ?_⟩
    exact List.forall_mem_nil _
  rw [GeneDraft.lines, map_block spelled, List.map_singleton]
  refine Adds.of_block (by decide) legible header (g.body.balanced_lines ·) ?_
  intro source place stands b
  have declared : ((sectionAt "gene" g.heading [g.body.text.toList] place).gene source).unplaced =
      g.declared := by
    have name : ((sectionAt "gene" g.heading [g.body.text.toList] place).header.head?.filter
        fun t => !t.isPunctuation ":").map (·.text) =
          some (String.ofList g.name.text.toList) := rfl
    have category : (headerCategory?
        (sectionAt "gene" g.heading [g.body.text.toList] place).header).map (·.text) =
          some (String.ofList g.category.text.toList) := rfl
    simp only [Section.gene, stands.text_sectionAt, name, category, String.ofList_toList,
      Option.getD_some]
    simp [GeneDeclaration.unplaced, g.lower, GeneDraft.declared]
  show { b with genes := b.genes ++ [_] }.unplaced = _
  simp only [Blueprint.unplaced, List.map_append, List.map_singleton, declared]

/-- The workflow section adds its program. -/
theorem adds_workflow (workflow : Prose) :
    Adds ((block "workflow" [workflow.text]).map String.toList)
      fun b => { b with workflow := joinWorkflow b.workflow workflow.text } := by
  refine Adds.of_bare_block (by decide) (workflow.balanced_lines ·) ?_
  intro source place stands b
  rw [List.map_singleton] at stands ⊢
  show { b with workflow := joinWorkflow b.workflow (Block.text _ source) }.unplaced = _
  rw [stands.text_sectionAt]
  rfl

theorem legible_goal :
    LegibleLine ([reservedPiece "fitness_goal"] ++ [.space, markPiece '\x7b']) :=
  legible_bare (by decide)

/-- The lines of a fitness goal are balanced. -/
theorem balanced_goalLines (d : Draft) (place : Position) :
    Balanced (tokensFrom place (unlines (d.goalLines.map String.toList))) := by
  rw [Draft.goalLines]
  split
  · rename_i goal aim
    rw [map_block (spelled_reserved "fitness_goal")]
    refine balanced_blockLines legible_goal ?_ (goal.balanced_lines _)
    intro t member
    rw [List.mem_singleton.mp member]
    exact ⟨rfl, rfl⟩
  · rw [List.map_nil, unlines_nil, tokensFrom_nil]
    exact Balanced.nil

/-- The block of the fitness goal is read as its setting. -/
theorem settings_goal (goal : Prose) {source : List Char} {place : Position}
    (stands : Stands source place
      (unlines (blockLines [reservedPiece "fitness_goal"] [goal.text.toList]))) (limit : Nat) :
    settings source limit (tokensFrom place
        (unlines (blockLines [reservedPiece "fitness_goal"] [goal.text.toList]))) =
      [("fitness_goal", ⟨goal.text, place.line⟩)] := by
  have closes : (closing [reservedPiece "fitness_goal"] [goal.text.toList] place).closesBlock =
      true := rfl
  have block := splitBlock_of_balanced
    (goal.balanced_lines (inner [reservedPiece "fitness_goal"] place)) closes limit
    (opening [reservedPiece "fitness_goal"] place) []
  have isGoal : ((Token.spanning .keyword place "fitness_goal".toList).isKeyword
      "fitness_goal" && (opening [reservedPiece "fitness_goal"] place).opensBlock) = true := by
    simp only [Token.isKeyword, Token.is, Token.kind_spanning, Token.text_spanning,
      String.ofList_toList, beq_self_eq_true, Bool.true_and]
    rfl
  rw [tokensFrom_blockLines legible_goal]
  show settings source limit (Token.spanning .keyword place "fitness_goal".toList ::
    opening [reservedPiece "fitness_goal"] place :: _) = _
  rw [settings]
  simp only [isGoal, if_true, block, Block.text, stands.slice_prose, settings]
  rfl

/-- The lines of a fitness goal, if there are any, are read as its setting. -/
theorem settings_goalLines (d : Draft) {source : List Char} {place : Position}
    (stands : Stands source place (unlines (d.goalLines.map String.toList))) (limit : Nat) :
    (settings source limit (tokensFrom place (unlines (d.goalLines.map String.toList)))).map
        unplacedEntry =
      (d.goal.map fun goal => ("fitness_goal", (⟨goal.text, 0⟩ : Setting))).toList := by
  cases aim : d.goal with
  | none => simp [Draft.goalLines, aim, settings]
  | some goal =>
      rw [Draft.goalLines, aim] at stands ⊢
      rw [map_block (spelled_reserved "fitness_goal"), List.map_singleton] at stands ⊢
      rw [settings_goal goal stands]
      rfl

/-- The lines of an evolution section are read as the settings of the draft. -/
theorem settings_evolution (d : Draft) {source : List Char} {place : Position}
    (stands : Stands source place
      (unlines (d.evolution.map (·.line.toList) ++ d.goalLines.map String.toList)))
    (limit : Nat) :
    (settings source limit (tokensFrom place
        (unlines (d.evolution.map (·.line.toList) ++ d.goalLines.map String.toList)))).map
      unplacedEntry = d.settings := by
  rw [unlines_append, stands_append] at stands
  rw [tokensFrom_unlines_append, settings_of_lines d.evolution stands.1,
    settings_goalLines d stands.2]
  rfl

/-- The evolution section sets the settings of a draft. -/
theorem adds_evolution (d : Draft) :
    Adds ((block "evolution" (d.evolution.map SettingDraft.line ++ d.goalLines)).map
        String.toList)
      fun b => d.settings.foldl (fun b entry => b.set entry.1 entry.2) b := by
  have sameLines : (d.evolution.map SettingDraft.line ++ d.goalLines).map String.toList =
      d.evolution.map (·.line.toList) ++ d.goalLines.map String.toList := by
    rw [List.map_append, List.map_map]
    rfl
  refine Adds.of_bare_block (by decide) ?_ ?_
  · intro place
    rw [sameLines, tokensFrom_unlines_append]
    exact (Balanced.of_plain (plain_of_settings d.evolution place)).append
      (balanced_goalLines d _)
  · intro source place stands b
    rw [sameLines] at stands ⊢
    have read := settings_evolution d stands.inside_blockLines
    rw [← read]
    exact Blueprint.unplaced_foldl_set _ b

/-- The genes of a draft are added one behind the other. -/
theorem adds_genes (genes : List GeneDraft) :
    Adds ((genes.flatMap GeneDraft.lines).map String.toList)
      fun b => { b with genes := b.genes ++ genes.map GeneDraft.declared } := by
  induction genes with
  | nil =>
      have unchanged : (fun b : Blueprint =>
          { b with genes := b.genes ++ ([] : List GeneDraft).map GeneDraft.declared }) = id := by
        funext b
        simp
      rw [unchanged]
      exact Adds.nil
  | cons g others inductionHypothesis =>
      have behind := (adds_gene g).append inductionHypothesis
      rw [List.flatMap_cons, List.map_append]
      refine (congrArg (Adds _) ?_).mp behind
      funext b
      simp

/-- The lines of the organism body as characters. -/
def Draft.body (d : Draft) : List (List Char) := d.bodyLines.map String.toList

/-- What the sections of a draft do to a blueprint. -/
def Draft.step (d : Draft) (b : Blueprint) : Blueprint :=
  { b with
    state := (d.state.map (·.declared)).foldl (fun state v => state.insert v.name v) b.state
    genes := b.genes ++ d.genes.map GeneDraft.declared
    workflow := joinWorkflow b.workflow d.workflow.text
    evolution := d.settings.foldl (fun evolution entry => evolution.insert entry.1 entry.2)
      b.evolution }

/-- The body of a draft adds everything the draft says, section by section. -/
theorem adds_body (d : Draft) : Adds d.body d.step := by
  have sections := (((adds_state d.state).append (adds_genes d.genes)).append
    (adds_workflow d.workflow)).append (adds_evolution d)
  rw [Draft.body, Draft.bodyLines, List.map_append, List.map_append, List.map_append]
  refine (congrArg (Adds _) ?_).mp sections
  funext b
  simp only [Function.comp_apply, Blueprint.foldl_declare, Blueprint.foldl_set, Draft.step]

/-- On a blueprint with nothing but its name the sections leave what the draft says. -/
theorem Draft.step_empty (d : Draft) :
    d.step { Blueprint.empty with name := d.name.text } = d.blueprint := by
  have state : (d.state.map (·.declared)).foldl (fun state v => state.insert v.name v)
      Directory.empty = d.blueprint.state := by
    show _ = Directory.ofList _
    rw [Directory.ofList, List.foldl_map, List.foldl_map]
    rfl
  have genes : [] ++ d.genes.map GeneDraft.declared = d.blueprint.genes := List.nil_append _
  show ({ d.blueprint with
    state := (d.state.map (·.declared)).foldl (fun state v => state.insert v.name v)
      Directory.empty
    genes := [] ++ d.genes.map GeneDraft.declared } : Blueprint) = d.blueprint
  rw [state, genes]

/-! ## The whole source -/

namespace Draft

/-- The header of the organism, token by token. -/
def heading (d : Draft) : List Piece := [reservedPiece "organism", .space, d.name.piece]

theorem toList_source (d : Draft) : d.source.toList = unlines (blockLines d.heading d.body) := by
  have spelled : ("organism " ++ d.name.text).toList = written d.heading := by
    simp [heading, reservedPiece, Name.piece, Piece.text]
  rw [source, String.toList_ofList, lines, map_block spelled, body]

/-- The tokens of a draft's source: the header, and the body between its braces. -/
theorem tokenize_source (d : Draft) :
    tokenize d.source =
      Piece.tokens Position.start d.heading ++ opening d.heading Position.start ::
        (tokensFrom (inner d.heading Position.start) (unlines d.body) ++
          [closing d.heading d.body Position.start]) := by
  have reserved : "organism" ∈ keywords := by decide
  have legible : LegibleLine (d.heading ++ [.space, markPiece '\x7b']) := by
    exact ⟨legible_reserved reserved (by decide) _, legible_name d.name (by decide) _,
      legible_mark (by decide) [], trivial⟩
  rw [tokenize, toList_source, tokensFrom_blockLines legible]

/-- The name of the organism as a token. -/
def nameToken (d : Draft) : Token :=
  Token.spanning .identifier (Position.start.advance ("organism".toList ++ [' ']))
    d.name.text.toList

/-- The reader finds the sections of the body between the braces of the organism. -/
theorem bodySections_source (d : Draft) (source : List Char) :
    bodySections source (d.nameToken :: opening d.heading Position.start ::
        (tokensFrom (inner d.heading Position.start) (unlines d.body) ++
          [closing d.heading d.body Position.start])) =
      sections (closing d.heading d.body Position.start).offset
        (tokensFrom (inner d.heading Position.start) (unlines d.body)) := by
  have heading : ∀ t ∈ [d.nameToken], t.IsHeading := by
    intro t member
    rw [List.mem_singleton.mp member]
    exact ⟨rfl, rfl⟩
  have opens : (opening d.heading Position.start).opensBlock = true := rfl
  have closes : (closing d.heading d.body Position.start).closesBlock = true := rfl
  have header := splitHeader?_of_heading heading opens
    (tokensFrom (inner d.heading Position.start) (unlines d.body) ++
      [closing d.heading d.body Position.start])
  rw [List.singleton_append] at header
  rw [bodySections, header]
  simp only [splitBlock_of_balanced ((adds_body d).balanced _) closes]

end Draft

/-- Reading undoes writing: the blueprint of a draft's source is what the draft says, up
to the lines on which it says it. -/
theorem ofSource_source (d : Draft) : (Blueprint.ofSource d.source).unplaced = d.blueprint := by
  have stands : Stands d.source.toList (inner d.heading Position.start) (unlines d.body) := by
    have whole := stands_start d.source.toList
    rw [d.toList_source] at whole ⊢
    exact whole.inside_blockLines
  obtain ⟨own, found, step⟩ := (adds_body d).found stands
    (closing d.heading d.body Position.start).offset []
  have noMore : sections (closing d.heading d.body Position.start).offset [] = [] := by
    rw [sections]
  rw [noMore, List.append_nil, List.append_nil] at found
  -- the first token declares the organism, outside of all braces
  have first : organismTokens 0 (tokenize d.source) = tokenize d.source := by
    rw [d.tokenize_source]
    rfl
  rw [Blueprint.ofSource, Blueprint.ofTokens, first, d.tokenize_source]
  show (List.foldl (Blueprint.addSection d.source.toList) _
    (bodySections d.source.toList (d.nameToken :: opening d.heading Position.start ::
      (tokensFrom (inner d.heading Position.start) (unlines d.body) ++
        [closing d.heading d.body Position.start])))).unplaced = _
  rw [d.bodySections_source, found, step, ← d.step_empty]
  -- without its line the blueprint in front of all sections has nothing but the name
  refine congrArg (fun name => d.step { Blueprint.empty with name := name }) ?_
  exact String.ofList_toList

/-- An organism whose texts hold keywords, and braces in a string and in comments. -/
def sentinel : Draft where
  name := ⟨"Sentinel", by decide, by decide⟩
  state :=
    [⟨⟨"energy", by decide, by decide⟩, .float,
        ⟨true, ['0'], ['2', '5'], by decide, by simp, by simp⟩⟩,
      ⟨⟨"depth", by decide, by decide⟩, .int, ⟨false, ['3'], [], by decide, by simp, by simp⟩⟩]
  stateDistinct := by decide
  genes :=
    [⟨⟨"Guard", by decide, by decide⟩, ⟨"sensor", by decide, by decide⟩, by decide +kernel,
      ⟨"if gene \x7b say(\"\x7d\"); \x7d // \x7b\x7b", by decide +kernel, by decide +kernel⟩⟩]
  workflow := ⟨"Guard(); // \x7d", by decide +kernel, by decide +kernel⟩
  evolution :=
    [⟨⟨"mutation_rate", by decide, by decide⟩,
      ⟨false, ['0'], ['1'], by decide, by simp, by simp⟩⟩]
  keysDistinct := by decide
  goal := some ⟨"maximize(energy)", by decide +kernel, by decide +kernel⟩

theorem ofSource_source_sentinel :
    (Blueprint.ofSource sentinel.source).unplaced = sentinel.blueprint :=
  ofSource_source sentinel

end Vivarium.Source
