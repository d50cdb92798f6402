import Vivarium.Proofs.Source.Arrangement
import Vivarium.Proofs.Source.Compiler
import Vivarium.Proofs.Source.Complaints

/-!
# What is read from a sound source

The reader never objects; it passes over what it cannot make sense of.  So it has to be
shown that it makes sense of the right things.  Of a source with a sound outline it takes
the name behind the only `organism` keyword, and that is a legal one.  The block of the
organism and the blocks of its sections end at the partners of their opening braces.  The
genes belong to `gene` keywords in that block, one each and in order, and say what stands
there: the name behind the keyword, and the text between the braces.

Main definitions:

* `GeneDeclaration.IsSaidBy`: a gene and the section of a source that declares it;
* `Blueprint.IsReadFrom`: a blueprint and the source that it is read from.

Main statements:

* `exists_body`: the block of the organism and its sections;
* `isReadFrom_of_outline`: what is read from a source with a sound outline;
* `start_of_mem_errors`: what the errors about a legally named blueprint are about;
* `ofSource_isReadFrom`: both together, so that an illegal name of an organism is never found
  by the check of its blueprint.
-/

namespace Vivarium.Source

open Vivarium.Text (trim)

/-! ## The organism and its sections -/

/-- A gene as a section of a source declares it. -/
structure GeneDeclaration.IsSaidBy (source : String) (g : GeneDeclaration) (s : Section) :
    Prop where
  gene : s.keyword.isKeyword "gene" = true
  /-- The section stands in the block of the organism and in no other block. -/
  matched : s.IsMatched (tokenize source) 1
  /-- The name is the token behind the keyword. -/
  name : ∃ name, s.header.head? = some name ∧ name.IsName ∧ g.name = name.text
  /-- The body stands between the braces. -/
  body : ∃ before text after, source.toList = before ++ '\x7b' :: (text ++ '\x7d' :: after) ∧
    s.block.start = before.length + 1 ∧ s.block.stop = before.length + (1 + text.length) ∧
    g.body = String.ofList (trim text)
  line : g.line = s.keyword.line

/-- A blueprint as it is read from a source with the given declaration, section by
section. -/
structure Blueprint.IsReadFrom (b : Blueprint) (source : String)
    (d : Declaration (tokenize source)) (found : List Section) : Prop where
  legal : isIdentifier d.name.text = true
  /-- Nothing is read but the declaration and the sections. -/
  read : b = found.foldl (Blueprint.addSection source.toList)
    { Blueprint.empty with name := d.name.text, line := d.keyword.line }
  name : b.name = d.name.text
  /-- The sections are those of the organism's block, which ends at the partner of its
  opening brace.  None is found if there is no such block. -/
  body : (¬HasBlock (d.name :: d.rest) ∧ found = []) ∨
    ∃ organism : Section, organism.keyword = d.keyword ∧
      organism.header.head? = some d.name ∧ organism.IsMatched (tokenize source) 0 ∧
      ∀ limit, found = sections limit organism.block.inside
  /-- Their blocks end at the partners of their opening braces, -/
  matched : ∀ s ∈ found, startsSection s.keyword = true ∧ s.IsMatched (tokenize source) 1
  /-- and so do the blocks among their settings. -/
  uncut : ∀ s ∈ found, ∀ limit,
    settings source.toList s.block.stop s.block.inside =
      settings source.toList limit s.block.inside
  /-- They come in the order of the source, each once. -/
  ascending : (found.map (·.keyword.offset)).Pairwise (· < ·)
  /-- The genes are those of the gene sections, one each and in their order, -/
  genes : b.genes = (found.filter Section.isGene).map (Section.gene · source.toList)
  /-- and each is what its section says. -/
  stated : ∀ s ∈ found.filter Section.isGene,
    GeneDeclaration.IsSaidBy source (s.gene source.toList) s

/-- The organism with its block and its sections, if a block follows its header. -/
theorem exists_body {tokens : List Token} (balanced : Balanced tokens) (d : Declaration tokens)
    (source : List Char) :
    (¬HasBlock (d.name :: d.rest) ∧ bodySections source (d.name :: d.rest) = []) ∨
      ∃ organism : Section, organism.keyword = d.keyword ∧
        organism.header.head? = some d.name ∧ organism.IsMatched tokens 0 ∧
        ∀ limit, bodySections source (d.name :: d.rest) =
          sections limit organism.block.inside := by
  unfold bodySections
  split
  · rename_i header opening after found
    obtain ⟨divided, opens⟩ := splitHeader?_eq_some found
    have heading := heading_of_splitHeader? found
    have behindKeyword := d.balanced balanced
    have name : header.head? = some d.name := by
      cases header with
      | nil =>
          obtain ⟨same, -⟩ := List.cons.inj divided
          rw [← same, d.isPlain_name.1] at opens
          cases opens
      | cons first others => exact congrArg some (List.cons.inj divided).1.symm
    rw [divided] at behindKeyword
    obtain ⟨inside, closing, behind, rfl, inBlock, closes, -⟩ :=
      behindKeyword.exists_block_of_header heading opens
    rw [splitBlock_of_balanced inBlock closes]
    refine Or.inr ⟨⟨d.keyword, header, ⟨opening.stop, inside, closing.offset⟩⟩, rfl, name, ?_, ?_⟩
    · refine ⟨heading, inBlock, d.front, opening, closing, behind, ?_, d.outside, opens, rfl,
        closes, rfl⟩
      rw [← divided]
      exact d.divided
    · exact fun limit => sections_limit inBlock closing.offset limit
  · rename_i missing
    refine Or.inl ⟨?_, rfl⟩
    rintro ⟨header, opening, after, divided, heading, opens⟩
    rw [divided, splitHeader?_of_heading heading opens] at missing
    cases missing

/-- Sections add nothing to the name and the line of an organism. -/
theorem Blueprint.name_foldl_addSection (source : List Char) (found : List Section)
    (b : Blueprint) : (found.foldl (addSection source) b).name = b.name := by
  induction found generalizing b with
  | nil => rfl
  | cons s others inductionHypothesis =>
      rw [List.foldl_cons, inductionHypothesis, addSection]
      split
      · rw [foldl_declare]
      · split
        · rfl
        · split
          · rfl
          · rw [foldl_set]

/-- A gene section of a sound source says what its gene declares. -/
theorem isSaidBy_of_isMatched {source : String} (sound : outlineErrors source = [])
    {s : Section} (starts : startsSection s.keyword = true) (gene : s.isGene = true)
    (whole : s.IsMatched (tokenize source) 1) :
    GeneDeclaration.IsSaidBy source (s.gene source.toList) s := by
  have text : s.keyword.text = "gene" := of_decide_eq_true gene
  have keyword : s.keyword.isKeyword "gene" = true := by
    rw [Token.isKeyword, Token.is, kind_of_startsSection starts, text]
    rfl
  obtain ⟨-, -, front, opening, closing, behind, divided, -, opens, start, closes, stop⟩ := id whole
  have declarations := (tokenErrors_eq_nil_iff.mp sound).1
  obtain ⟨name, next, legal⟩ :=
    named_of_declarationErrors declarations ⟨front, divided.symm⟩ keyword
  have named := Section.head?_header opens next legal
  have between : tokenize source = (front ++ s.keyword :: s.header) ++
      opening :: (s.block.inside ++ closing :: behind) := by
    rw [divided, List.append_assoc, List.cons_append]
  obtain ⟨before, body, after, same, stopsAt, closesAt, read⟩ :=
    exists_text_of_braces between opens closes
  rw [← start, ← stop] at read
  rw [← start] at stopsAt
  rw [← stop] at closesAt
  exact ⟨keyword, whole, ⟨name, named, legal, Section.gene_name opens next legal _⟩,
    ⟨before, body, after, same, stopsAt, closesAt, read⟩, rfl⟩

/-- **What is read from a source with a sound outline.** -/
theorem isReadFrom_of_outline {source : String} (sound : outlineErrors source = []) :
    ∃ d found, (Blueprint.ofSource source).IsReadFrom source d found := by
  have balanced := balanced_of_braceErrors (tokenErrors_eq_nil_iff.mp sound).2.1
  obtain ⟨d, starts⟩ := exists_declaration sound
  have legal := isIdentifier_of_mem_tokenize d.name_mem d.named
  have read : Blueprint.ofSource source =
      (bodySections source.toList (d.name :: d.rest)).foldl (Blueprint.addSection source.toList)
        { Blueprint.empty with name := d.name.text, line := d.keyword.line } := by
    rw [Blueprint.ofSource, Blueprint.ofTokens, starts]
    simp [Option.filter, d.isPlain_name.1]
  have body := exists_body balanced d source.toList
  have matched : ∀ s ∈ bodySections source.toList (d.name :: d.rest),
      startsSection s.keyword = true ∧ s.IsMatched (tokenize source) 1 := by
    intro s member
    rcases body with ⟨-, nothing⟩ | ⟨organism, keyword, -, whole, inside⟩
    · rw [nothing] at member
      cases member
    · rw [inside 0] at member
      obtain ⟨starts', within⟩ := isMatched_of_mem_sections whole.balanced member
      have plain : organism.keyword.IsPlain := by
        rw [keyword]
        exact d.isPlain_keyword
      exact ⟨starts', whole.nested plain within⟩
  refine ⟨d, bodySections source.toList (d.name :: d.rest), ?_⟩
  exact {
    legal := legal
    read := read
    name := by rw [read, Blueprint.name_foldl_addSection]
    body := body
    matched := matched
    uncut := fun s member limit => settings_limit (matched s member).2.balanced _ _ _
    ascending := by
      rcases body with ⟨-, nothing⟩ | ⟨organism, -, -, whole, inside⟩
      · rw [nothing]
        exact List.Pairwise.nil
      · rw [inside 0, List.pairwise_map]
        have inOrder := (keywords_sections_sublist 0 organism.block.inside).trans
          whole.inside_isInfix.sublist
        have ordered := List.Pairwise.sublist inOrder (offsets_tokenize source)
        simpa only [List.pairwise_map] using ordered
    genes := by
      rw [read, Blueprint.genes_foldl_addSection]
      rfl
    stated := by
      intro s member
      obtain ⟨listed, gene⟩ := List.mem_filter.mp member
      obtain ⟨starts', whole⟩ := matched s listed
      exact isSaidBy_of_isMatched sound starts' gene whole }

/-! ## The error that is never reported -/

/-- The outline reports errors of structure only. -/
theorem structural_of_outlineErrors {source : String} {d : Diagnostic}
    (found : d ∈ outlineErrors source) : d.category = .structural := by
  rw [outlineErrors, tokenErrors, List.mem_mergeSort, List.mem_append, List.mem_append] at found
  rcases found with (declared | brace) | typed
  · exact (isComplaint_of_mem_declarationErrors _ _ _ d declared).structural
  · simp only [braceErrors, List.mem_append, List.mem_map] at brace
    rcases brace with ⟨t, -, rfl⟩ | ⟨t, -, rfl⟩ <;> rfl
  · exact (isComplaint_of_mem_stateTypeErrors _ _ d typed).structural

/-- What the messages of errors about a blueprint start with, if its name is legal. -/
def errorStarts : List String :=
  ["Duplicate gene name '", "Invalid gene category '", "Evolution setting '"]

theorem start_of_mem_geneErrors {seen : List String} {genes : List GeneDeclaration}
    {d : Diagnostic} (found : d ∈ geneErrors seen genes) :
    ∃ start ∈ errorStarts, start.toList <+: d.message.toList := by
  obtain ⟨start, known, line, text, rfl⟩ := exists_of_mem_geneErrors found
  refine ⟨start, List.mem_append_left ["Evolution setting '"] known, ?_⟩
  rw [Diagnostic.semantic, String.toList_append]
  exact List.prefix_append _ _

theorem start_of_mem_settingDiagnostics {b : Blueprint} {d : Diagnostic}
    (found : d ∈ settingDiagnostics b) (error : d.isError = true) :
    ∃ start ∈ errorStarts, start.toList <+: d.message.toList := by
  obtain ⟨key, -, found⟩ := List.mem_flatMap.mp found
  split at found
  · rw [settingDiagnostic] at found
    split at found
    · split at found
      · cases found
      · rw [List.mem_singleton.mp found] at error
        cases error
    · rw [List.mem_singleton.mp found]
      refine ⟨"Evolution setting '", by decide, ?_⟩
      simp [Diagnostic.semantic, String.toList_append]
  · cases found

/-- The errors about a blueprint with a legal name are about its genes and settings. -/
theorem start_of_mem_errors {b : Blueprint} (legal : isIdentifier b.name = true)
    {d : Diagnostic} (found : d ∈ b.errors) :
    ∃ start ∈ errorStarts, start.toList <+: d.message.toList := by
  obtain ⟨found, error⟩ := List.mem_filter.mp found
  have nameless : nameErrors b = [] := if_pos legal
  rw [Blueprint.diagnostics, List.mem_mergeSort, nameless, List.nil_append, List.mem_append,
    List.mem_append] at found
  rcases found with (gene | state) | setting
  · exact start_of_mem_geneErrors gene
  · obtain ⟨v, -, warned⟩ := List.mem_flatMap.mp state
    rw [stateWarning] at warned
    split at warned
    · split at warned
      · cases warned
      · rw [List.mem_singleton.mp warned] at error
        cases error
    · cases warned
  · exact start_of_mem_settingDiagnostics setting error

/-- **The reader takes from a sound source what it says.**  So no source reaches the
complaint about the name of its organism that is made when the blueprint is checked: an
illegal name is found in the outline already. -/
theorem ofSource_isReadFrom (source : String) :
    (outlineErrors source = [] →
      ∃ d found, (Blueprint.ofSource source).IsReadFrom source d found) ∧
    ∀ (options : CompileOptions) (now : Instant), ∀ d ∈ (compile source options now).errors,
      d.category = .semantic → ¬"Invalid organism name".toList <+: d.message.toList := by
  refine ⟨isReadFrom_of_outline, ?_⟩
  intro options now d found semantic complaint
  rcases compiles_cases source with flawed | ⟨arranged, flawed⟩ | sound
  · rw [compile_of_outline options now flawed] at found
    have structural := structural_of_outlineErrors found
    rw [semantic] at structural
    cases structural
  · rw [compile_of_errors options now arranged flawed] at found
    obtain ⟨declaration, sections, reading⟩ := isReadFrom_of_outline arranged
    have legal : isIdentifier (Blueprint.ofSource source).name = true := by
      rw [reading.name]
      exact reading.legal
    obtain ⟨start, listed, starts⟩ := start_of_mem_errors legal found
    -- of two beginnings of one text, one is a beginning of the other
    have apart : ∀ start ∈ errorStarts,
        ¬"Invalid organism name".toList <+: start.toList ∧
          ¬start.toList <+: "Invalid organism name".toList := by
      decide
    rcases List.prefix_or_prefix_of_prefix complaint starts with shorter | longer
    · exact (apart start listed).1 shorter
    · exact (apart start listed).2 longer
  · rw [compile_of_compiles options now sound] at found
    cases found

/-- A source with a section that is no gene, a block that is no section and a gene with a
block inside. -/
def shrew : String :=
  "organism Shrew \x7b state \x7b x: float = 1; \x7d \x7b \x7d\n" ++
    "gene Dig \x7b if \x7b dig \x7d \x7d \x7d"

theorem ofSource_isReadFrom_shrew :
    outlineErrors shrew = [] ∧ (Blueprint.ofSource shrew).name = "Shrew" ∧
      (Blueprint.ofSource shrew).genes.map (·.body) = ["if \x7b dig \x7d"] ∧
      ∃ d found, (Blueprint.ofSource shrew).IsReadFrom shrew d found := by
  have sound : outlineErrors shrew = [] := by decide +kernel
  exact ⟨sound, by decide +kernel, by decide +kernel, (ofSource_isReadFrom shrew).1 sound⟩

end Vivarium.Source
