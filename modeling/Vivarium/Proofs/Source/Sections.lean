import Vivarium.Proofs.Source.Draft
import Vivarium.Source.Outline

/-!
# Where sections stand

The reader makes nothing up: the keyword, the header, the opening brace and the block
of every section follow each other in the tokens of the source.  The genes of a blueprint
are the `gene` sections among them, in their order.  The outline, on the other hand, asks
for an identifier behind every `gene` keyword, wherever it stands, so that a source with a
sound outline names all its genes legally.

Main definitions:

* `Section.StandsIn`: a section as it stands in a run of tokens.

Main statements:

* `standsIn_of_mem_bodySections`: the sections of an organism stand in its tokens;
* `Blueprint.genes_ofTokens`: the genes of a blueprint are its gene sections;
* `isIdentifier_of_tokenErrors_eq_nil`: a sound outline names every gene.
-/

namespace Vivarium.Source

/-! ## Blocks and headers -/

theorem splitBlock_start (limit : Nat) (brace : Token) (after : List Token) :
    (splitBlock limit brace after).1.start = brace.stop := by
  unfold splitBlock
  split <;> rfl

/-- The tokens of a block follow its opening brace. -/
theorem splitBlock_inside_isPrefix (limit : Nat) (brace : Token) (after : List Token) :
    (splitBlock limit brace after).1.inside <+: after := by
  have whole := splitClose_append 0 after
  unfold splitBlock
  split <;>
  · rename_i parts
    rw [parts] at whole
    exact ⟨_, whole⟩

/-- The tokens behind a block are the last ones. -/
theorem splitBlock_rest_isSuffix (limit : Nat) (brace : Token) (after : List Token) :
    (splitBlock limit brace after).2 <:+ after := by
  have whole := splitClose_append 0 after
  unfold splitBlock
  split
  · exact List.nil_suffix
  · rename_i inside close rest parts
    rw [parts] at whole
    refine ⟨inside ++ [close], ?_⟩
    rw [List.append_assoc]
    exact whole

/-- A header, its brace and what follows make up the tokens. -/
theorem splitHeader?_eq_some {tokens header after : List Token} {brace : Token}
    (found : splitHeader? tokens = some (header, brace, after)) :
    tokens = header ++ brace :: after ∧ brace.opensBlock = true := by
  induction tokens generalizing header with
  | nil => cases found
  | cons t rest inductionHypothesis =>
      rw [splitHeader?] at found
      split at found
      · rename_i opens
        cases found
        exact ⟨rfl, opens⟩
      · split at found
        · cases found
        · obtain ⟨⟨others, brace', after'⟩, inRest, parts⟩ := Option.map_eq_some_iff.mp found
          cases parts
          obtain ⟨rfl, opens⟩ := inductionHypothesis inRest
          exact ⟨rfl, opens⟩

/-! ## Sections -/

/-- A section as it stands in a run of tokens. -/
structure Section.StandsIn (s : Section) (tokens : List Token) : Prop where
  /-- It starts with a section keyword. -/
  starts : startsSection s.keyword = true
  /-- Keyword, header, opening brace and block follow each other. -/
  inOrder : ∃ brace, brace.opensBlock = true ∧ s.block.start = brace.stop ∧
    s.keyword :: (s.header ++ brace :: s.block.inside) <:+: tokens

theorem Section.StandsIn.mono {s : Section} {tokens others : List Token}
    (stands : s.StandsIn tokens) (within : tokens <:+: others) : s.StandsIn others := by
  obtain ⟨starts, brace, opens, start, inTokens⟩ := stands
  exact ⟨starts, brace, opens, start, inTokens.trans within⟩

/-- Every section of a body stands in its tokens. -/
theorem standsIn_of_mem_sections {limit : Nat} {tokens : List Token} {s : Section}
    (member : s ∈ sections limit tokens) : s.StandsIn tokens := by
  fun_induction sections limit tokens with
  | case1 => cases member
  | case2 t rest _ _ inductionHypothesis =>
      have behind := (splitBlock_rest_isSuffix limit t rest).trans (List.suffix_cons t rest)
      exact (inductionHypothesis member).mono behind.isInfix
  | case3 t rest _ starts header brace after found _ _ inductionHypothesis =>
      obtain ⟨rfl, opens⟩ := splitHeader?_eq_some found
      rcases List.mem_cons.mp member with rfl | later
      · refine ⟨starts, brace, opens, splitBlock_start limit brace after, ?_⟩
        obtain ⟨behind, block⟩ := splitBlock_inside_isPrefix limit brace after
        refine ⟨[], behind, ?_⟩
        simp only [List.nil_append, List.cons_append, List.append_assoc, block]
      · refine (inductionHypothesis later).mono (List.IsSuffix.isInfix ?_)
        have behind := (splitBlock_rest_isSuffix limit brace after).trans
          (List.suffix_cons brace after)
        exact (behind.trans (List.suffix_append header _)).trans (List.suffix_cons t _)
  | case4 t rest _ _ _ inductionHypothesis =>
      exact (inductionHypothesis member).mono (List.suffix_cons t rest).isInfix
  | case5 t rest _ _ inductionHypothesis =>
      exact (inductionHypothesis member).mono (List.suffix_cons t rest).isInfix

/-- Every section of an organism stands in the tokens behind the `organism` keyword. -/
theorem standsIn_of_mem_bodySections {source : List Char} {tokens : List Token} {s : Section}
    (member : s ∈ bodySections source tokens) : s.StandsIn tokens := by
  unfold bodySections at member
  split at member
  · rename_i header brace after found
    obtain ⟨rfl, -⟩ := splitHeader?_eq_some found
    refine (standsIn_of_mem_sections member).mono ?_
    have block := (splitBlock_inside_isPrefix source.length brace after).isInfix
    have behind := (List.suffix_cons brace after).trans (List.suffix_append header _)
    exact block.trans behind.isInfix
  · cases member

theorem organismTokens_isSuffix (depth : Nat) (tokens : List Token) :
    organismTokens depth tokens <:+ tokens := by
  induction tokens generalizing depth with
  | nil => exact List.suffix_refl _
  | cons t rest inductionHypothesis =>
      rw [organismTokens]
      split
      · exact (inductionHypothesis _).trans (List.suffix_cons t rest)
      · split
        · exact (inductionHypothesis _).trans (List.suffix_cons t rest)
        · split
          · exact List.suffix_refl _
          · exact (inductionHypothesis _).trans (List.suffix_cons t rest)

/-! ## Genes -/

/-- The section declares a gene. -/
def Section.isGene (s : Section) : Bool := s.keyword.text = "gene"

namespace Blueprint

/-- A gene section adds its gene at the end; other sections leave the genes alone. -/
theorem genes_addSection (source : List Char) (b : Blueprint) (s : Section) :
    (b.addSection source s).genes =
      b.genes ++ ([s].filter Section.isGene).map (Section.gene · source) := by
  unfold addSection
  by_cases gene : s.keyword.text = "gene"
  · simp [gene, Section.isGene]
  · have others : [s].filter Section.isGene = [] := by simp [Section.isGene, gene]
    rw [others, List.map_nil, List.append_nil, if_neg gene]
    split
    · rw [foldl_declare]
    · split
      · rfl
      · rw [foldl_set]

/-- Sections add their genes in order. -/
theorem genes_foldl_addSection (source : List Char) (found : List Section) (b : Blueprint) :
    (found.foldl (addSection source) b).genes =
      b.genes ++ (found.filter Section.isGene).map (Section.gene · source) := by
  induction found generalizing b with
  | nil => exact (List.append_nil _).symm
  | cons s others inductionHypothesis =>
      rw [List.foldl_cons, inductionHypothesis, genes_addSection, List.append_assoc,
        ← List.map_append, ← List.filter_append, List.singleton_append]

/-- The genes of a blueprint are the gene sections of its organism, in order, and these
stand in the tokens of the source. -/
theorem genes_ofTokens (source : List Char) (tokens : List Token) :
    ∃ found : List Section,
      (ofTokens source tokens).genes = found.map (Section.gene · source) ∧
      ∀ s ∈ found, s.isGene = true ∧ s.StandsIn tokens := by
  unfold ofTokens
  split
  · exact ⟨[], rfl, List.forall_mem_nil _⟩
  · rename_i keyword rest declared
    refine ⟨(bodySections source rest).filter Section.isGene, ?_, ?_⟩
    · exact genes_foldl_addSection source _ _
    · intro s member
      obtain ⟨member, gene⟩ := List.mem_filter.mp member
      refine ⟨gene, (standsIn_of_mem_bodySections member).mono ?_⟩
      have organism := organismTokens_isSuffix 0 tokens
      rw [declared] at organism
      exact ((List.suffix_cons keyword rest).trans organism).isInfix

end Blueprint

/-! ## Names -/

/-- The token is an identifier by its kind and by its characters. -/
def Token.IsName (t : Token) : Prop := t.kind = .identifier ∧ isIdentifier t.text = true

/-- A name is no punctuation. -/
theorem Token.IsName.isPunctuation {t : Token} (named : t.IsName) (text : String) :
    t.isPunctuation text = false := by
  rw [Token.isPunctuation, Token.is, named.1]
  rfl

/-- A gene keyword without complaint has a name behind it. -/
theorem named_of_sectionErrors {depth : Nat} {t : Token} {rest : List Token}
    (flawless : sectionErrors depth t rest = []) (gene : t.text = "gene") :
    ∃ name, rest.head? = some name ∧ name.IsName := by
  obtain ⟨-, named⟩ := List.append_eq_nil_iff.mp flawless
  simp only [gene, decide_true, Bool.true_and, Bool.not_eq_eq_eq_not, Bool.not_true,
    ite_eq_right_iff, reduceCtorEq, imp_false, Bool.not_eq_false, Option.any_eq_true] at named
  obtain ⟨name, next, legal⟩ := named
  obtain ⟨next, -⟩ := Option.filter_eq_some_iff.mp next
  obtain ⟨kind, legal⟩ := Bool.and_eq_true_iff.mp legal
  exact ⟨name, next, of_decide_eq_true kind, legal⟩

/-- Without complaints about the declarations, every gene keyword has a name behind it,
at whatever depth it stands. -/
theorem named_of_declarationErrors {depth declared : Nat} {tokens : List Token}
    (flawless : declarationErrors depth declared tokens = []) {t : Token} {rest : List Token}
    (found : t :: rest <:+ tokens) (gene : t.isKeyword "gene" = true) :
    ∃ name, rest.head? = some name ∧ name.IsName := by
  induction tokens generalizing depth declared with
  | nil => cases List.suffix_nil.mp found
  | cons first others inductionHypothesis =>
      rcases List.suffix_cons_iff.mp found with here | later
      · obtain ⟨rfl, rfl⟩ := List.cons.inj here
        obtain ⟨kind, text⟩ := Bool.and_eq_true_iff.mp gene
        have kind := beq_iff_eq.mp kind
        have text := beq_iff_eq.mp text
        -- a gene keyword is no brace and no `organism`, so that it comes to the section check
        have checked : declarationErrors depth declared (t :: rest) =
            sectionErrors depth t rest ++ declarationErrors depth declared rest := by
          simp [declarationErrors, Token.opensBlock, Token.closesBlock, Token.isPunctuation,
            Token.isKeyword, Token.is, kind, text, sectionKeywords]
        rw [checked] at flawless
        exact named_of_sectionErrors (List.append_eq_nil_iff.mp flawless).1 text
      · rw [declarationErrors] at flawless
        split at flawless
        · exact inductionHypothesis flawless later
        · split at flawless
          · exact inductionHypothesis flawless later
          · split at flawless
            · split at flawless
              · cases flawless
              · exact inductionHypothesis (List.append_eq_nil_iff.mp flawless).2 later
            · split at flawless
              · exact inductionHypothesis (List.append_eq_nil_iff.mp flawless).2 later
              · exact inductionHypothesis flawless later

/-- A name in front of a block does not open it, and so it is in the header. -/
theorem Section.head?_header {s : Section} {brace name : Token} {after : List Token}
    (opens : brace.opensBlock = true) (next : (s.header ++ brace :: after).head? = some name)
    (legal : name.IsName) : s.header.head? = some name := by
  cases header : s.header with
  | nil =>
      rw [header, List.nil_append, List.head?_cons] at next
      cases next
      rw [Token.opensBlock, legal.isPunctuation] at opens
      cases opens
  | cons first others =>
      rw [header] at next
      exact next

/-- A gene is called by the name behind its keyword. -/
theorem Section.gene_name {s : Section} {brace name : Token} {after : List Token}
    (opens : brace.opensBlock = true) (next : (s.header ++ brace :: after).head? = some name)
    (legal : name.IsName) (source : List Char) : (s.gene source).name = name.text := by
  simp [gene, head?_header opens next legal, Option.filter, legal.isPunctuation]

/-- An outline is sound if none of its checks has anything to report. -/
theorem tokenErrors_eq_nil_iff {tokens : List Token} :
    tokenErrors tokens = [] ↔ declarationErrors 0 0 tokens = [] ∧ braceErrors tokens = [] ∧
      stateTypeErrors none tokens = [] := by
  rw [tokenErrors, ← List.length_eq_zero_iff, List.length_mergeSort, List.length_eq_zero_iff,
    List.append_eq_nil_iff, List.append_eq_nil_iff, and_assoc]

/-- **A sound outline names every gene.** -/
theorem isIdentifier_of_tokenErrors_eq_nil {tokens : List Token}
    (flawless : tokenErrors tokens = []) (source : List Char) {g : GeneDeclaration}
    (member : g ∈ (Blueprint.ofTokens source tokens).genes) : isIdentifier g.name = true := by
  obtain ⟨found, genes, stands⟩ := Blueprint.genes_ofTokens source tokens
  rw [genes] at member
  obtain ⟨s, listed, rfl⟩ := List.mem_map.mp member
  obtain ⟨gene, starts, brace, opens, -, before, behind, inOrder⟩ := stands s listed
  have keyword : s.keyword.isKeyword "gene" = true := by
    obtain ⟨kind, -⟩ := Bool.and_eq_true_iff.mp starts
    have text : s.keyword.text = "gene" := of_decide_eq_true gene
    rw [Token.isKeyword, Token.is, of_decide_eq_true kind, text]
    rfl
  have declarations := (tokenErrors_eq_nil_iff.mp flawless).1
  have suffix : s.keyword :: (s.header ++ brace :: (s.block.inside ++ behind)) <:+ tokens := by
    refine ⟨before, ?_⟩
    rw [← inOrder]
    simp only [List.append_assoc, List.cons_append]
  obtain ⟨name, next, legal⟩ := named_of_declarationErrors declarations suffix keyword
  rw [Section.gene_name opens next legal source]
  exact legal.2

end Vivarium.Source
