import Vivarium.Proofs.Source.Reading

/-!
# Which gene keywords declare a gene

The outline asks of a `gene` keyword that it stands in some block and has a name; the
reader takes a gene from it if it stands in the block of the organism and a block of its
own follows.  These are not the same: a gene without a block, or in a block outside of the
organism, is accepted and passed over.  What can be said of every source with a sound
outline is that the reader finds exactly the `gene` keywords that satisfy both.

Main definitions:

* `InOrganism`: tokens that lead into the block of an organism;
* `Token.DeclaresGene`: a `gene` keyword in that block, with a block of its own.

Main statements:

* `Declaration.unique`: an `organism` keyword is the one of the declaration;
* `genes_ofSource`: one gene for each keyword that declares one, in their order.
-/

namespace Vivarium.Source

/-- The tokens lead into the block of an organism, and no other block is open there. -/
def InOrganism (front : List Token) : Prop :=
  ∃ before organism header opening inside,
    front = before ++ organism :: (header ++ opening :: inside) ∧
    organism.isKeyword "organism" = true ∧ (∀ t ∈ header, t.IsHeading) ∧
    opening.opensBlock = true ∧ Balanced inside

/-- A `gene` keyword at depth one that stands in the block of an organism and is followed
by a block before the header ends. -/
structure Token.DeclaresGene (keyword : Token) (tokens : List Token) : Prop where
  gene : keyword.isKeyword "gene" = true
  stands : ∃ front rest, tokens = front ++ keyword :: rest ∧ nesting 0 front = some 1 ∧
    InOrganism front ∧ HasBlock rest

/-- An `organism` keyword is the one of the declaration. -/
theorem Declaration.unique {tokens : List Token} (d : Declaration tokens)
    {before behind : List Token} {organism : Token}
    (divided : tokens = before ++ organism :: behind)
    (keyword : organism.isKeyword "organism" = true) :
    d.front = before ∧ d.keyword = organism ∧ d.name :: d.rest = behind := by
  have other : organism ∉ d.front ++ d.name :: d.rest := by
    intro member
    have noKeyword := d.only organism member
    rw [keyword] at noKeyword
    cases noKeyword
  rw [List.mem_append, not_or] at other
  exact (List.append_cons_inj_of_notMem other.1 other.2).mp (d.divided.symm.trans divided)

/-- The first block behind a header is given by the tokens. -/
theorem block_unique {header header' inside inside' behind behind' : List Token}
    {opening opening' closing closing' : Token}
    (same : header ++ opening :: (inside ++ closing :: behind) =
      header' ++ opening' :: (inside' ++ closing' :: behind'))
    (heading : ∀ t ∈ header, t.IsHeading) (heading' : ∀ t ∈ header', t.IsHeading)
    (opens : opening.opensBlock = true) (opens' : opening'.opensBlock = true)
    (balanced : Balanced inside) (balanced' : Balanced inside')
    (closes : closing.closesBlock = true) (closes' : closing'.closesBlock = true) :
    inside = inside' := by
  have found := splitHeader?_of_heading heading opens (inside ++ closing :: behind)
  rw [same, splitHeader?_of_heading heading' opens'] at found
  obtain ⟨-, rfl, after⟩ : header' = header ∧ opening' = opening ∧
      inside' ++ closing' :: behind' = inside ++ closing :: behind := by
    simpa using found
  have block := splitBlock_of_balanced balanced closes 0 opening' behind
  rw [← after, splitBlock_of_balanced balanced' closes'] at block
  exact (Block.mk.inj (Prod.mk.inj block).1).2.1.symm

/-- A section of the organism's block leads into the organism and has a block. -/
theorem declaresGene_of_mem {tokens : List Token} {organism s : Section} {limit : Nat}
    (whole : organism.IsMatched tokens 0)
    (keyword : organism.keyword.isKeyword "organism" = true)
    (member : s ∈ sections limit organism.block.inside) (gene : s.keyword.isKeyword "gene" = true) :
    s.keyword.DeclaresGene tokens := by
  obtain ⟨-, within⟩ := isMatched_of_mem_sections whole.balanced member
  obtain ⟨heading, -, inFront, opening, closing, behind, inside, counted, opens, -⟩ := within
  obtain ⟨headings, -, before, brace, partner, after, divided, outside, opens', -⟩ := whole
  refine ⟨gene, before ++ organism.keyword :: (organism.header ++ brace :: inFront),
    s.header ++ opening :: (s.block.inside ++ closing :: (behind ++ partner :: after)),
    ?_, ?_, ?_, ?_⟩
  · rw [divided, inside]
    simp only [List.append_assoc, List.cons_append]
  · rw [nesting_append, outside, Option.bind_some,
      nesting_of_isPlain _ _ (Token.isPlain_of_isKeyword keyword),
      nesting_of_header headings opens']
    exact nesting_add counted 1
  · exact ⟨before, organism.keyword, organism.header, brace, inFront, rfl, keyword, headings,
      opens', counted⟩
  · exact ⟨s.header, opening, _, rfl, heading, opens⟩

/-- A keyword that declares a gene has a section in the organism's block. -/
theorem exists_section_of_declaresGene {tokens : List Token} (balanced : Balanced tokens)
    (d : Declaration tokens) {keyword : Token} (declares : keyword.DeclaresGene tokens) :
    ∃ s : Section, s.keyword = keyword ∧ ∃ header opening inside closing behind,
      d.name :: d.rest = header ++ opening :: (inside ++ closing :: behind) ∧
      (∀ t ∈ header, t.IsHeading) ∧ opening.opensBlock = true ∧ Balanced inside ∧
      closing.closesBlock = true ∧ s.IsMatched inside 0 := by
  obtain ⟨gene, front, rest, divided, -, ⟨before, organism, header, brace, inFront, rfl, isOrganism,
    headings, opens, balancedFront⟩, header', opening, after, rfl, headings', opens'⟩ := declares
  have plain := Token.isPlain_of_isKeyword gene
  have leading : tokens = before ++ organism :: (header ++ brace ::
      (inFront ++ keyword :: (header' ++ opening :: after))) := by
    rw [divided]
    simp only [List.append_assoc, List.cons_append]
  obtain ⟨-, -, behindKeyword⟩ := d.unique leading isOrganism
  -- two blocks are open behind the brace of the gene: its own and the one of the organism
  have counted : nesting (0 + (1 + 1)) after = some 0 := by
    have whole := d.balanced balanced
    rw [behindKeyword, Balanced, nesting_of_header headings opens,
      nesting_append_of_balanced balancedFront, nesting_of_isPlain _ _ plain,
      nesting_of_header headings' opens'] at whole
    exact whole
  obtain ⟨inside, closing, others, rfl, balancedInside, closes, counted⟩ :=
    exists_closing counted (Nat.zero_le 1)
  obtain ⟨inBehind, closing', behind, rfl, balancedBehind, closes', -⟩ :=
    exists_closing_of_one counted
  let s : Section := ⟨keyword, header', ⟨opening.stop, inside, closing.offset⟩⟩
  have matched : s.IsMatched (inFront ++ keyword :: (header' ++ opening :: (inside ++
      closing :: inBehind))) 0 :=
    ⟨headings', balancedInside, inFront, opening, closing, inBehind, rfl, balancedFront, opens',
      rfl, closes, rfl⟩
  refine ⟨s, rfl, header, brace, _, closing', behind, ?_, headings, opens, ?_, closes', matched⟩
  · rw [behindKeyword]
    simp only [List.append_assoc, List.cons_append]
  · rw [Balanced, nesting_append_of_balanced balancedFront, nesting_of_isPlain _ _ plain,
      nesting_of_header headings' opens', nesting_append, nesting_add balancedInside 1,
      Option.bind_some, nesting_of_closes _ _ closes]
    exact balancedBehind

/-- A gene keyword starts a section. -/
theorem startsSection_of_isKeyword {t : Token} (gene : t.isKeyword "gene" = true) :
    startsSection t = true := by
  obtain ⟨kind, text⟩ := Bool.and_eq_true_iff.mp gene
  rw [startsSection, beq_iff_eq.mp kind, beq_iff_eq.mp text]
  rfl

namespace Blueprint.IsReadFrom

variable {b : Blueprint} {source : String} {d : Declaration (tokenize source)}
  {found : List Section} (reading : b.IsReadFrom source d found)
include reading

/-- The keywords of the gene sections declare a gene. -/
theorem declaresGene {s : Section} (member : s ∈ found)
    (gene : s.keyword.isKeyword "gene" = true) : s.keyword.DeclaresGene (tokenize source) := by
  rcases reading.body with ⟨-, nothing⟩ | ⟨organism, isDeclared, -, whole, inside⟩
  · rw [nothing] at member
    cases member
  · rw [inside 0] at member
    exact declaresGene_of_mem whole (isDeclared ▸ d.declares) member gene

/-- Each keyword that declares a gene is that of a section. -/
theorem exists_section (balanced : Balanced (tokenize source)) {keyword : Token}
    (declares : keyword.DeclaresGene (tokenize source)) : ∃ s ∈ found, s.keyword = keyword := by
  obtain ⟨s, same, header, opening, block, closing, behind, divided, heading, opens, inBlock,
    closes, matched⟩ := exists_section_of_declaresGene balanced d declares
  rcases reading.body with ⟨missing, -⟩ | ⟨organism, isDeclared, -, whole, inside⟩
  · exact absurd ⟨header, opening, _, divided, heading, opens⟩ missing
  · -- the block behind the declaration is the one in which the reader looks for sections
    obtain ⟨headings, balanced', before, opening', closing', behind', divided', -, opens', -,
      closes', -⟩ := whole
    obtain ⟨-, -, behindKeyword⟩ := d.unique divided' (isDeclared ▸ d.declares)
    have block := block_unique (divided.symm.trans behindKeyword) heading headings opens opens'
      inBlock balanced' closes closes'
    refine ⟨s, ?_, same⟩
    rw [inside 0, ← block]
    exact mem_sections_of_isMatched 0 (startsSection_of_isKeyword (same ▸ declares.gene)) matched

end Blueprint.IsReadFrom

/-- **One gene for each keyword that declares one**, in the order of the source, and the
gene that stands there. -/
theorem genes_ofSource {source : String} (sound : outlineErrors source = []) :
    ∃ sites : List Section,
      (Blueprint.ofSource source).genes = sites.map (Section.gene · source.toList) ∧
      (∀ s ∈ sites, GeneDeclaration.IsSaidBy source (s.gene source.toList) s) ∧
      (sites.map (·.keyword.offset)).Pairwise (· < ·) ∧
      ∀ keyword, keyword ∈ sites.map (·.keyword) ↔
        keyword.DeclaresGene (tokenize source) := by
  have balanced := balanced_of_braceErrors (tokenErrors_eq_nil_iff.mp sound).2.1
  obtain ⟨d, found, reading⟩ := isReadFrom_of_outline sound
  have ascending : ((found.filter Section.isGene).map (·.keyword.offset)).Pairwise (· < ·) :=
    List.Pairwise.sublist (List.filter_sublist.map _) reading.ascending
  refine ⟨found.filter Section.isGene, reading.genes, reading.stated, ascending, ?_⟩
  intro keyword
  constructor
  · intro listed
    obtain ⟨s, member, rfl⟩ := List.mem_map.mp listed
    exact reading.declaresGene (List.mem_filter.mp member).1 (reading.stated s member).gene
  · intro declares
    obtain ⟨s, member, rfl⟩ := reading.exists_section balanced declares
    have gene : s.isGene = true :=
      decide_eq_true (beq_iff_eq.mp (Bool.and_eq_true_iff.mp declares.gene).2)
    exact List.mem_map.mpr ⟨s, List.mem_filter.mpr ⟨member, gene⟩, rfl⟩

/-- A gene keyword without a block is accepted, at depth one, and no gene is read. -/
theorem genes_ofSource_blockless :
    outlineErrors "organism A \x7b gene G; \x7d" = [] ∧
      (∃ front keyword rest,
        tokenize "organism A \x7b gene G; \x7d" = front ++ keyword :: rest ∧
        keyword.isKeyword "gene" = true ∧ nesting 0 front = some 1) ∧
      (Blueprint.ofSource "organism A \x7b gene G; \x7d").genes = [] := by
  refine ⟨by decide +kernel, ?_, by decide +kernel⟩
  exact ⟨(tokenize "organism A \x7b gene G; \x7d").take 3, ⟨.keyword, "gene", 1, 13, 13, 4⟩,
    (tokenize "organism A \x7b gene G; \x7d").drop 4, by decide +kernel, by decide +kernel,
    by decide +kernel⟩

/-- Two genes with blocks, and between them a gene without one. -/
def gappy : String := "organism A \x7b gene B \x7b b \x7d gene C; gene D \x7b d \x7d \x7d"

theorem genes_ofSource_gappy :
    outlineErrors gappy = [] ∧
      ∃ sites : List Section, sites.length = 2 ∧
        ∀ s ∈ sites, s.keyword.DeclaresGene (tokenize gappy) := by
  have sound : outlineErrors gappy = [] := by decide +kernel
  obtain ⟨sites, genes, -, -, declares⟩ := genes_ofSource sound
  refine ⟨sound, sites, ?_, fun s member => (declares _).mp (List.mem_map_of_mem member)⟩
  have counted : (Blueprint.ofSource gappy).genes.length = 2 := by decide +kernel
  rwa [genes, List.length_map] at counted

end Vivarium.Source
