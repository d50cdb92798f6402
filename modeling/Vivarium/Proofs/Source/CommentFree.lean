import Vivarium.Proofs.Directory
import Vivarium.Proofs.Source.MutedReading

/-!
# Comments do not count

A comment says nothing to the compiler.  It hides what it holds from the outline, whether
braces, quotation marks or keywords; it moves no line; and although the reader takes whole
blocks from the source as they stand, no part of a blueprint is read out of one.  Only the
texts that are taken as they stand show the comments that are in them: the bodies of genes,
the workflow and the fitness goal.

Two sources that only differ in the characters of their comments are one and the same
source once the comments are emptied.  So it is enough to compare a source with the one
whose comments are empty.

Main definitions:

* `Blueprint.mapTexts`: a blueprint with other texts;
* `Blueprint.AgreesBesideComments`: what two such sources say alike.

Main statements:

* `outlineErrors_emptyComments`: emptying comments does not change the outline;
* `mapTexts_ofSource`: emptying comments only empties the comments of the blueprint;
* `comments_without_influence`: sources that only differ in comments say the same.
-/

namespace Vivarium.Source

/-- The outline of a source is that of the source with empty comments. -/
theorem outlineErrors_emptyComments (source : String) :
    outlineErrors (emptyComments source) = outlineErrors source := by
  have tokens := tokenize_mute source.toList
  rw [String.ofList_toList] at tokens
  rw [outlineErrors, outlineErrors, emptyComments_eq, tokens, tokenErrors_relocated]

/-- A gene with another body. -/
def GeneDeclaration.mapBody (f : String → String) (g : GeneDeclaration) : GeneDeclaration :=
  { g with body := f g.body }

namespace Blueprint

/-- A blueprint with other texts in place of those that are taken from the source as they
stand. -/
def mapTexts (f : String → String) (b : Blueprint) : Blueprint :=
  { b with
    genes := b.genes.map (GeneDeclaration.mapBody f)
    workflow := f b.workflow
    evolution := b.evolution.mapValues (Setting.mapGoal f) }

/-! ## Sections -/

theorem isEmpty_emptyComments (text : String) : (emptyComments text).isEmpty = text.isEmpty := by
  rw [emptyComments_eq, Bool.eq_iff_iff, String.isEmpty_iff, String.isEmpty_iff,
    ← String.toList_eq_nil_iff, ← String.toList_eq_nil_iff, String.toList_ofList]
  cases text.toList with
  | nil => rfl
  | cons c rest => exact iff_of_false (List.cons_ne_nil _ _) (List.cons_ne_nil _ _)

/-- Where workflow blocks are joined no comment is open. -/
theorem emptyComments_joinWorkflow (workflow text : String) :
    emptyComments (joinWorkflow workflow text) =
      joinWorkflow (emptyComments workflow) (emptyComments text) := by
  rw [joinWorkflow, joinWorkflow, isEmpty_emptyComments, isEmpty_emptyComments]
  split
  · rfl
  · split
    · rfl
    · have joined (first second : String) :
          (first ++ "\n" ++ second).toList = first.toList ++ '\n' :: second.toList := by
        simp
      apply String.toList_inj.mp
      rw [joined, emptyComments_eq, emptyComments_eq, emptyComments_eq, String.toList_ofList,
        String.toList_ofList, String.toList_ofList, joined, Mode.mute_append, Mode.mute_newline]

theorem mapTexts_foldl_declare (f : String → String) (declared : List Variable) (b : Blueprint) :
    (declared.foldl declare b).mapTexts f = declared.foldl declare (b.mapTexts f) := by
  induction declared generalizing b with
  | nil => rfl
  | cons v rest inductionHypothesis => exact inductionHypothesis (b.declare v)

theorem mapTexts_foldl_set (f : String → String) (entries : List (String × Setting))
    (b : Blueprint) :
    (entries.foldl (fun b entry => b.set entry.1 entry.2) b).mapTexts f =
      (mapGoals f entries).foldl (fun b entry => b.set entry.1 entry.2) (b.mapTexts f) := by
  induction entries generalizing b with
  | nil => rfl
  | cons entry rest inductionHypothesis =>
      have here : (b.set entry.1 entry.2).mapTexts f =
          (b.mapTexts f).set entry.1 (entry.2.mapGoal f entry.1) := by
        rw [set, mapTexts, Directory.mapValues_insert]
        rfl
      rw [List.foldl_cons, inductionHypothesis, here]
      rfl

section Reading

variable {source : List Char}

/-- A section of the muted text declares the same, but for the comments. -/
theorem mapTexts_addSection {s : Section} (settled : ∀ t ∈ s.block.inside, t.Settled source)
    (inCode : Mode.after .code (source.take s.block.start) = .code) {b c : Blueprint}
    (same : c.mapTexts emptyComments = b.mapTexts emptyComments) :
    (c.addSection (Mode.mute .code source) (s.relocated (muteOffset source))).mapTexts
        emptyComments =
      (b.addSection source s).mapTexts emptyComments := by
  have keyword : (s.relocated (muteOffset source)).keyword.text = s.keyword.text := rfl
  have block : (s.relocated (muteOffset source)).block =
      s.block.relocated (muteOffset source) := rfl
  have inside : (s.relocated (muteOffset source)).block.inside =
      s.block.inside.map (Token.relocated (muteOffset source)) := rfl
  have stop : (s.relocated (muteOffset source)).block.stop = muteOffset source s.block.stop := rfl
  have withGene (d : Blueprint) (g : GeneDeclaration) :
      mapTexts emptyComments { d with genes := d.genes ++ [g] } =
        { d.mapTexts emptyComments with
          genes := (d.mapTexts emptyComments).genes ++ [g.mapBody emptyComments] } := by
    simp [mapTexts]
  have withWorkflow (d : Blueprint) (text : String) :
      mapTexts emptyComments { d with workflow := joinWorkflow d.workflow text } =
        { d.mapTexts emptyComments with
          workflow := joinWorkflow (d.mapTexts emptyComments).workflow (emptyComments text) } := by
    simp [mapTexts, emptyComments_joinWorkflow]
  rw [addSection, addSection, keyword]
  split
  · rw [mapTexts_foldl_declare, mapTexts_foldl_declare, same, inside, variables_relocated settled]
  split
  · have gene := Section.gene_relocated inCode
    have body : ((s.relocated (muteOffset source)).gene (Mode.mute .code source)).mapBody
        emptyComments = (s.gene source).mapBody emptyComments := by
      rw [gene, GeneDeclaration.mapBody, GeneDeclaration.mapBody, emptyComments_emptyComments]
    rw [withGene, withGene, same, body]
  split
  · have text := Block.text_relocated inCode
    rw [withWorkflow, withWorkflow, same, block, text, emptyComments_emptyComments]
  · rw [mapTexts_foldl_set, mapTexts_foldl_set, same, inside, stop, settings_relocated settled]

theorem mapTexts_foldl_addSection {found : List Section}
    (settled : ∀ s ∈ found, ∀ t ∈ s.block.inside, t.Settled source)
    (inCode : ∀ s ∈ found, Mode.after .code (source.take s.block.start) = .code)
    {b c : Blueprint} (same : c.mapTexts emptyComments = b.mapTexts emptyComments) :
    ((found.map (Section.relocated (muteOffset source))).foldl
        (addSection (Mode.mute .code source)) c).mapTexts emptyComments =
      (found.foldl (addSection source) b).mapTexts emptyComments := by
  induction found generalizing b c with
  | nil => exact same
  | cons s rest inductionHypothesis =>
      obtain ⟨settledHere, settledLater⟩ := List.forall_mem_cons.mp settled
      obtain ⟨inCodeHere, inCodeLater⟩ := List.forall_mem_cons.mp inCode
      exact inductionHypothesis settledLater inCodeLater
        (mapTexts_addSection settledHere inCodeHere same)

/-- The blueprint of the muted text is the same, but for the comments. -/
theorem mapTexts_ofTokens {tokens : List Token} (settled : ∀ t ∈ tokens, t.Settled source) :
    (ofTokens (Mode.mute .code source)
        (tokens.map (Token.relocated (muteOffset source)))).mapTexts emptyComments =
      (ofTokens source tokens).mapTexts emptyComments := by
  rw [ofTokens, ofTokens, organismTokens_relocated]
  have within := (organismTokens_isSuffix 0 tokens).subset
  cases organism : organismTokens 0 tokens with
  | nil => rfl
  | cons keyword rest =>
      have settledBehind (t : Token) (member : t ∈ rest) : t.Settled source :=
        settled t (within (organism ▸ List.mem_cons_of_mem keyword member))
      have name : ((rest.map (Token.relocated (muteOffset source))).head?.filter
            fun t => !t.opensBlock).map (·.text) =
          (rest.head?.filter fun t => !t.opensBlock).map (·.text) := by
        rw [filter_head?_relocated (muteOffset source) fun _ => rfl, Option.map_map]
        rfl
      have found := bodySections_relocated (muteOffset source) (muteOffset_length source).symm
        fun t member => (settledBehind t member).stop_relocated
      simp only [List.map_cons, name, found]
      refine mapTexts_foldl_addSection (fun s member t inside => ?_) (fun s member => ?_) rfl
      · obtain ⟨-, brace, -, -, within⟩ := standsIn_of_mem_bodySections member
        exact settledBehind t (within.subset (by simp [inside]))
      · obtain ⟨-, brace, opens, start, within⟩ := standsIn_of_mem_bodySections member
        rw [start]
        exact (settledBehind brace (within.subset (by simp))).opens opens

end Reading

/-- The blueprint of a source is that of the source with empty comments, but for the
comments that are in its texts. -/
theorem mapTexts_ofSource (source : String) :
    (ofSource (emptyComments source)).mapTexts emptyComments =
      (ofSource source).mapTexts emptyComments := by
  have tokens := tokenize_mute source.toList
  rw [String.ofList_toList] at tokens
  rw [ofSource, ofSource, emptyComments_eq, tokens, String.toList_ofList]
  exact mapTexts_ofTokens fun t member => settled_of_mem_tokenize member

/-! ## Two sources -/

/-- What two blueprints say alike that only differ in comments. -/
structure AgreesBesideComments (a b : Blueprint) : Prop where
  name : a.name = b.name
  line : a.line = b.line
  state : a.state = b.state
  genes : a.genes.map (fun g => (g.name, g.category, g.line)) =
    b.genes.map fun g => (g.name, g.category, g.line)
  bodies : a.genes.map (fun g => dropComments g.body) = b.genes.map fun g => dropComments g.body
  workflow : dropComments a.workflow = dropComments b.workflow
  settings : ∀ key, key ≠ "fitness_goal" → a.evolution.find? key = b.evolution.find? key
  fitnessGoal : (a.evolution.find? "fitness_goal").map (fun s => (dropComments s.value, s.line)) =
    (b.evolution.find? "fitness_goal").map fun s => (dropComments s.value, s.line)

/-- Blueprints that are the same with empty comments agree beside their comments. -/
theorem AgreesBesideComments.of_mapTexts {a b : Blueprint}
    (same : a.mapTexts emptyComments = b.mapTexts emptyComments) : a.AgreesBesideComments b := by
  have genes : a.genes.map (GeneDeclaration.mapBody emptyComments) =
      b.genes.map (GeneDeclaration.mapBody emptyComments) := congrArg Blueprint.genes same
  have workflow : emptyComments a.workflow = emptyComments b.workflow :=
    congrArg Blueprint.workflow same
  have evolution (key : String) :
      (a.evolution.find? key).map (Setting.mapGoal emptyComments key) =
        (b.evolution.find? key).map (Setting.mapGoal emptyComments key) := by
    rw [← Directory.find?_mapValues, ← Directory.find?_mapValues]
    exact congrArg (fun d : Blueprint => d.evolution.find? key) same
  refine ⟨(congrArg Blueprint.name same :), (congrArg Blueprint.line same :),
    (congrArg Blueprint.state same :), ?_, ?_, ?_, ?_, ?_⟩
  · have headers := congrArg
      (List.map fun g : GeneDeclaration => (g.name, g.category, g.line)) genes
    rw [List.map_map, List.map_map] at headers
    exact headers
  · have bodies := congrArg (List.map fun g : GeneDeclaration => dropComments g.body) genes
    simp only [List.map_map, Function.comp_def, GeneDeclaration.mapBody,
      dropComments_emptyComments] at bodies
    exact bodies
  · rw [← dropComments_emptyComments, workflow, dropComments_emptyComments]
  · intro key other
    have unchanged : Setting.mapGoal emptyComments key = id := by
      funext s
      exact if_neg other
    have found := evolution key
    rw [unchanged, Option.map_id, id, id] at found
    exact found
  · have found := congrArg (Option.map fun s : Setting => (dropComments s.value, s.line))
      (evolution "fitness_goal")
    simp only [Option.map_map, Function.comp_def, Setting.mapGoal, if_true,
      dropComments_emptyComments] at found
    exact found

end Blueprint

/-- Comments have no influence.  Two sources that only differ in the characters of their
comments have the same outline, and their blueprints agree in all that they say and, once
comments are dropped, in the texts that are taken from the source as they stand. -/
theorem comments_without_influence {a b : String} (same : emptyComments a = emptyComments b) :
    outlineErrors a = outlineErrors b ∧
      (Blueprint.ofSource a).AgreesBesideComments (Blueprint.ofSource b) := by
  constructor
  · rw [← outlineErrors_emptyComments a, same, outlineErrors_emptyComments]
  · apply Blueprint.AgreesBesideComments.of_mapTexts
    rw [← Blueprint.mapTexts_ofSource a, same, Blueprint.mapTexts_ofSource]

/-- A source whose comments hold a brace, a quotation mark and a category. -/
def commented : String :=
  "organism Newt \x7b // a \x7d and a \" here\n" ++
  "  gene hunt \x7b\n    wait // type: sly\n    type: Brave\n  \x7d\n\x7d"

/-- The same source with other comments. -/
def recommented : String :=
  "organism Newt \x7b // shy\n" ++
  "  gene hunt \x7b\n    wait //\n    type: Brave\n  \x7d\n\x7d"

theorem comments_without_influence_newt :
    commented ≠ recommented ∧ emptyComments commented = emptyComments recommented ∧
      outlineErrors commented = outlineErrors recommented ∧
      (Blueprint.ofSource commented).AgreesBesideComments (Blueprint.ofSource recommented) := by
  have same : emptyComments commented = emptyComments recommented := by
    rw [emptyComments_eq, emptyComments_eq]
    decide +kernel
  exact ⟨by decide, same, comments_without_influence same⟩

end Vivarium.Source
