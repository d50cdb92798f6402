import Vivarium.Proofs.Directory
import Vivarium.Proofs.Listing
import Vivarium.Proofs.Source.Acceptance
import Vivarium.Source.Blueprint.Reader

/-!
# Findings about a blueprint

The check of a blueprint reports texts.  Each of them tells of one *finding*: something that is
the case about the blueprint, such as a gene that has the name of one in front of it.  A
blueprint *has* a finding if it is the case, whatever is reported.  The report of the check is
exact: it tells of each finding once, and of nothing else, by line, and on one line in the order
in which the four parts of the check go through the blueprint.

Main definitions:

* `Finding`, `Finding.diagnostic`: a finding and the text that tells of it;
* `Blueprint.Has`: the findings about a blueprint;
* `Finding.Precedes`, `Finding.Before`: the order of the check, and the order of its report;
* `IsReport`: diagnostics that tell of some findings, in the order of the check.

Main statements:

* `exists_nameReport`, `exists_geneReport`, `exists_stateReport`, `exists_settingsReport`: the
  parts of the check;
* `exists_report`, `exists_sortedReport`: the whole check, before its report is sorted and after;
* `Blueprint.errors_eq_nil_iff_legal`, `Blueprint.countP_diagnostics`: what there are errors about;
* `Blueprint.diagnostics_exact`: the whole report.
-/

namespace Vivarium.Source

/-! ## Findings -/

/-- Something that is the case about a blueprint.  Genes are told apart by their places, state
variables and settings by their keys. -/
inductive Finding where
  | badName (line : Nat) (name : String)
  | repeatedGene (place : Nat) (g : GeneDeclaration)
  | unknownCategory (place : Nat) (g : GeneDeclaration)
  | farVariable (key : String) (v : Variable) (x : Float)
  | noNumber (key : String) (s : Setting)
  | farSetting (key : String) (s : Setting) (x : Float)

namespace Finding

/-- The diagnostic that tells of the finding. -/
def diagnostic : Finding → Diagnostic
  | badName line name => .semantic line ("Invalid organism name '" ++ name ++ "'")
  | repeatedGene _ g => .semantic g.line ("Duplicate gene name '" ++ g.name ++ "'")
  | unknownCategory _ g =>
      .semantic g.line ("Invalid gene category '" ++ g.category ++ "' for gene '" ++ g.name ++
        "'; expected one of " ++ "sensor, processor, actuator, memory")
  | farVariable _ v x =>
      .warning v.line ("State variable '" ++ v.name ++ "' = " ++ Number.plain x ++
        " is outside [0, 1] and will be clamped")
  | noNumber key s =>
      .semantic s.line ("Evolution setting '" ++ key ++ "' must be a number, got '" ++
        s.value ++ "'")
  | farSetting key s x =>
      .warning s.line ("Evolution setting '" ++ key ++ "' = " ++ Number.plain x ++
        " is outside [0, 1]")

/-- The part of the check that makes the finding: the name, the genes, the state variables and
the settings, in this order. -/
def part : Finding → Nat
  | badName .. => 0
  | repeatedGene .. | unknownCategory .. => 1
  | farVariable .. => 2
  | noNumber .. | farSetting .. => 3

/-- The place of the gene that the finding is about. -/
def gene? : Finding → Option Nat
  | repeatedGene place _ | unknownCategory place _ => some place
  | _ => none

/-- The key of the setting that the finding is about. -/
def setting? : Finding → Option String
  | noNumber key _ | farSetting key .. => some key
  | _ => none

/-- The order of the check.  Genes are checked from the first to the last one, each for its name
and then for its category, state variables by name, and the mutation rate before the selection
pressure. -/
inductive Precedes : Finding → Finding → Prop where
  | part {f g : Finding} (less : f.part < g.part) : Precedes f g
  | gene {f g : Finding} {place later : Nat} (first : f.gene? = some place)
      (second : g.gene? = some later) (less : place < later) : Precedes f g
  | category {place : Nat} {g h : GeneDeclaration} :
      Precedes (repeatedGene place g) (unknownCategory place h)
  | state {key later : String} {v w : Variable} {x y : Float} (less : key < later) :
      Precedes (farVariable key v x) (farVariable later w y)
  | setting {f g : Finding} (first : f.setting? = some "mutation_rate")
      (second : g.setting? = some "selection_pressure") : Precedes f g

theorem Precedes.ne {f g : Finding} (precedes : f.Precedes g) : f ≠ g := by
  rintro rfl
  cases precedes with
  | part less => exact Nat.lt_irrefl _ less
  | gene first second less =>
      rw [first] at second
      cases second
      exact Nat.lt_irrefl _ less
  | state less => exact String.lt_irrefl _ less
  | setting first second =>
      rw [first] at second
      exact absurd second (by decide)

/-- The order of the report: by line, and on one line in the order of the check. -/
def Before (f g : Finding) : Prop :=
  f.diagnostic.line < g.diagnostic.line ∨
    f.diagnostic.line = g.diagnostic.line ∧ f.Precedes g

theorem Before.ne {f g : Finding} (before : f.Before g) : f ≠ g := by
  rcases before with less | ⟨-, precedes⟩
  · rintro rfl
    exact Nat.lt_irrefl _ less
  · exact precedes.ne

end Finding

/-- The number that a setting is read as, if it is one and finite. -/
def Setting.number? (s : Setting) : Option Float :=
  (Number.read? s.value.toList).filter Number.isFinite

/-- The finding is the case about the blueprint. -/
def Blueprint.Has (b : Blueprint) : Finding → Prop
  | .badName line name => line = b.line ∧ name = b.name ∧ isIdentifier name = false
  | .repeatedGene place g =>
      b.genes[place]? = some g ∧ g.name ∈ (b.genes.take place).map (·.name)
  | .unknownCategory place g =>
      b.genes[place]? = some g ∧ g.category ∉ ["sensor", "processor", "actuator", "memory"]
  | .farVariable key v x =>
      b.state.find? key = some v ∧ v.value = .number x ∧ ¬(0.0 ≤ x ∧ x ≤ 1.0)
  | .noNumber key s =>
      key ∈ ["mutation_rate", "selection_pressure"] ∧ b.evolution.find? key = some s ∧
        s.number? = none
  | .farSetting key s x =>
      key ∈ ["mutation_rate", "selection_pressure"] ∧ b.evolution.find? key = some s ∧
        s.number? = some x ∧ ¬(0.0 ≤ x ∧ x ≤ 1.0)

/-! ## Reports -/

/-- The diagnostics tell of the findings that are made, each once and in the order of the
check. -/
structure IsReport (Found : Finding → Prop) (diagnostics : List Diagnostic)
    (findings : List Finding) : Prop where
  told : findings.map (·.diagnostic) = diagnostics
  exact : ∀ f, f ∈ findings ↔ Found f
  ordered : findings.Pairwise Finding.Precedes

namespace IsReport

variable {Found Other : Finding → Prop} {diagnostics others : List Diagnostic}
  {findings later : List Finding}

theorem of_iff (report : IsReport Found diagnostics findings) (same : ∀ f, Found f ↔ Other f) :
    IsReport Other diagnostics findings :=
  ⟨report.told, fun f => (report.exact f).trans (same f), report.ordered⟩

theorem nil (nothing : ∀ f, ¬Found f) : IsReport Found [] [] :=
  ⟨rfl, fun f => iff_of_false List.not_mem_nil (nothing f), List.Pairwise.nil⟩

theorem single {f : Finding} (only : ∀ g, g = f ↔ Found g) : IsReport Found [f.diagnostic] [f] :=
  ⟨rfl, fun g => List.mem_singleton.trans (only g), List.pairwise_singleton _ _⟩

theorem append (report : IsReport Found diagnostics findings)
    (second : IsReport Other others later)
    (precedes : ∀ f g, Found f → Other g → f.Precedes g) :
    IsReport (fun f => Found f ∨ Other f) (diagnostics ++ others) (findings ++ later) where
  told := by rw [List.map_append, report.told, second.told]
  exact f := by rw [List.mem_append, report.exact, second.exact]
  ordered := List.pairwise_append.mpr ⟨report.ordered, second.ordered, fun f first g last =>
    precedes f g ((report.exact f).mp first) ((second.exact g).mp last)⟩

end IsReport

/-- A check of one thing, which is the case or not. -/
theorem exists_report_ite (condition : Prop) [Decidable condition] (f : Finding) :
    ∃ findings, IsReport (fun g => condition ∧ g = f)
      (if condition then [f.diagnostic] else []) findings := by
  by_cases found : condition
  · rw [if_pos found]
    exact ⟨[f], IsReport.single fun g => (and_iff_right found).symm⟩
  · rw [if_neg found]
    exact ⟨[], IsReport.nil fun g made => found made.1⟩

/-- A check of one item after the other. -/
theorem exists_report_flatMap {ι : Type} {diagnose : ι → List Diagnostic}
    {Found : ι → Finding → Prop} {items : List ι}
    (each : ∀ i, ∃ findings, IsReport (Found i) (diagnose i) findings)
    (precedes : items.Pairwise fun i j => ∀ f g, Found i f → Found j g → f.Precedes g) :
    ∃ findings, IsReport (fun f => ∃ i ∈ items, Found i f) (items.flatMap diagnose) findings := by
  induction items with
  | nil => exact ⟨[], IsReport.nil fun f ⟨i, member, _⟩ => List.not_mem_nil member⟩
  | cons i rest inductionHypothesis =>
      obtain ⟨first, others⟩ := List.pairwise_cons.mp precedes
      obtain ⟨findings, report⟩ := each i
      obtain ⟨later, laterReport⟩ := inductionHypothesis others
      refine ⟨findings ++ later, (report.append laterReport ?_).of_iff fun f => ?_⟩
      · rintro f g made ⟨j, member, found⟩
        exact first j member f g made found
      · simp only [List.mem_cons, exists_eq_or_imp]

/-! ## One check -/

theorem exists_duplicateReport (seen : List String) (place : Nat) (g : GeneDeclaration) :
    ∃ findings, IsReport (fun f => g.name ∈ seen ∧ f = .repeatedGene place g)
      (duplicateError seen g) findings := by
  simp only [duplicateError, List.contains_iff_mem]
  exact exists_report_ite _ (.repeatedGene place g)

theorem exists_categoryReport (place : Nat) (g : GeneDeclaration) :
    ∃ findings, IsReport
      (fun f => Gene.Category.ofName? g.category = none ∧ f = .unknownCategory place g)
      (categoryError g) findings := by
  have unfolded : categoryError g = if Gene.Category.ofName? g.category = none
      then [(Finding.unknownCategory place g).diagnostic] else [] := by
    unfold categoryError
    cases Gene.Category.ofName? g.category <;> rfl
  rw [unfolded]
  exact exists_report_ite _ (.unknownCategory place g)

/-- What can be found about genes that stand behind genes with the given names, the first of them
at the given place. -/
def GeneFound (seen : List String) (place : Nat) (genes : List GeneDeclaration) (f : Finding) :
    Prop :=
  ∃ (behind : Nat) (g : GeneDeclaration), genes[behind]? = some g ∧
    (f = .repeatedGene (place + behind) g ∧
        (g.name ∈ seen ∨ g.name ∈ (genes.take behind).map (·.name)) ∨
      f = .unknownCategory (place + behind) g ∧ Gene.Category.ofName? g.category = none)

/-- The first gene, or one behind it. -/
theorem geneFound_cons {seen : List String} {place : Nat} {g : GeneDeclaration}
    {rest : List GeneDeclaration} {f : Finding} :
    GeneFound seen place (g :: rest) f ↔
      ((g.name ∈ seen ∧ f = .repeatedGene place g) ∨
        (Gene.Category.ofName? g.category = none ∧ f = .unknownCategory place g)) ∨
      GeneFound (g.name :: seen) (place + 1) rest f := by
  have names : ∀ (behind : Nat) (x : GeneDeclaration),
      (x.name ∈ g.name :: seen ∨ x.name ∈ (rest.take behind).map (·.name)) ↔
        (x.name ∈ seen ∨ x.name ∈ ((g :: rest).take (behind + 1)).map (·.name)) := by
    intro behind x
    rw [List.take_succ_cons, List.map_cons, List.mem_cons, List.mem_cons, or_left_comm, or_assoc]
  have places : ∀ behind, place + 1 + behind = place + (behind + 1) := by omega
  constructor
  · rintro ⟨_ | behind, x, found, made⟩
    · cases found
      left
      rcases made with ⟨same, known | impossible⟩ | ⟨same, unknown⟩
      · exact Or.inl ⟨known, same⟩
      · cases impossible
      · exact Or.inr ⟨unknown, same⟩
    · right
      refine ⟨behind, x, found, ?_⟩
      rwa [places, names]
  · rintro ((⟨known, same⟩ | ⟨unknown, same⟩) | ⟨behind, x, found, made⟩)
    · exact ⟨0, g, rfl, Or.inl ⟨same, Or.inl known⟩⟩
    · exact ⟨0, g, rfl, Or.inr ⟨same, unknown⟩⟩
    · refine ⟨behind + 1, x, found, ?_⟩
      rwa [places, names] at made

/-- Genes are checked from the first to the last one. -/
theorem exists_geneErrorsReport (seen : List String) (place : Nat)
    (genes : List GeneDeclaration) :
    ∃ findings, IsReport (GeneFound seen place genes) (geneErrors seen genes) findings := by
  induction genes generalizing seen place with
  | nil => exact ⟨[], IsReport.nil fun f ⟨behind, g, found, _⟩ => by cases found⟩
  | cons g rest inductionHypothesis =>
      obtain ⟨repeated, repeatedReport⟩ := exists_duplicateReport seen place g
      obtain ⟨unknown, unknownReport⟩ := exists_categoryReport place g
      obtain ⟨later, laterReport⟩ := inductionHypothesis (g.name :: seen) (place + 1)
      refine ⟨repeated ++ unknown ++ later, ((repeatedReport.append unknownReport ?_).append
        laterReport ?_).of_iff fun f => geneFound_cons.symm⟩
      · rintro _ _ ⟨-, rfl⟩ ⟨-, rfl⟩
        exact .category
      · rintro f h here ⟨behind, x, -, there⟩
        have first : f.gene? = some place := by
          rcases here with ⟨-, rfl⟩ | ⟨-, rfl⟩ <;> rfl
        have second : h.gene? = some (place + 1 + behind) := by
          rcases there with ⟨rfl, -⟩ | ⟨rfl, -⟩ <;> rfl
        exact .gene first second (by omega)

theorem not_inUnit_iff {x : Float} : ¬inUnit x = true ↔ ¬(0.0 ≤ x ∧ x ≤ 1.0) := by
  rw [inUnit, Bool.and_eq_true, decide_eq_true_eq, decide_eq_true_eq]

/-- What can be found about a state variable that is kept under the given key. -/
def VariableFound (key : String) (v : Variable) (f : Finding) : Prop :=
  ∃ x, v.value = .number x ∧ ¬(0.0 ≤ x ∧ x ≤ 1.0) ∧ f = .farVariable key v x

theorem exists_variableReport (key : String) (v : Variable) :
    ∃ findings, IsReport (VariableFound key v) (stateWarning v) findings := by
  unfold stateWarning VariableFound
  cases v.value with
  | text s =>
      refine ⟨[], IsReport.nil fun f found => ?_⟩
      obtain ⟨x, impossible, -⟩ := found
      cases impossible
  | number x =>
      dsimp only
      rw [← ite_not]
      obtain ⟨findings, report⟩ := exists_report_ite (¬inUnit x = true) (.farVariable key v x)
      refine ⟨findings, report.of_iff fun f => ?_⟩
      simp only [Datum.number.injEq, exists_eq_left', not_inUnit_iff]

/-- What can be found about the setting of the given key: it is no number or lies outside of the
unit interval, but not both. -/
def SettingFound (key : String) (s : Setting) (f : Finding) : Prop :=
  s.number? = none ∧ f = .noNumber key s ∨
    ∃ x, s.number? = some x ∧ ¬(0.0 ≤ x ∧ x ≤ 1.0) ∧ f = .farSetting key s x

theorem exists_settingReport (key : String) (s : Setting) :
    ∃ findings, IsReport (SettingFound key s) (settingDiagnostic key s) findings := by
  have number : (Number.read? s.value.toList).filter Number.isFinite = s.number? := rfl
  unfold settingDiagnostic SettingFound
  rw [number]
  cases s.number? with
  | none =>
      refine ⟨[.noNumber key s], IsReport.single (f := .noNumber key s) fun f => ?_⟩
      simp only [true_and, reduceCtorEq, false_and, exists_false, or_false]
  | some x =>
      dsimp only
      rw [← ite_not]
      obtain ⟨findings, report⟩ := exists_report_ite (¬inUnit x = true) (.farSetting key s x)
      refine ⟨findings, report.of_iff fun f => ?_⟩
      simp only [not_inUnit_iff, reduceCtorEq, false_and, false_or, Option.some.injEq,
        exists_eq_left']

theorem SettingFound.setting {key : String} {s : Setting} {f : Finding}
    (found : SettingFound key s f) : f.setting? = some key := by
  rcases found with ⟨-, rfl⟩ | ⟨x, -, -, rfl⟩ <;> rfl

/-! ## The parts of the check -/

variable {b : Blueprint} {f : Finding}

/-- A text is the name of no category if it is none of the four names. -/
theorem ofName?_eq_none_iff {text : String} :
    Gene.Category.ofName? text = none ↔ text ∉ ["sensor", "processor", "actuator", "memory"] := by
  have names : ["sensor", "processor", "actuator", "memory"] =
      Gene.Category.all.map Gene.Category.name := rfl
  rw [names, Gene.Category.ofName?, List.find?_eq_none]
  simp only [decide_eq_true_eq, List.mem_map, not_exists, not_and]

theorem exists_nameReport (b : Blueprint) :
    ∃ findings, IsReport (fun f => b.Has f ∧ f.part = 0) (nameErrors b) findings := by
  rw [nameErrors, ← ite_not]
  obtain ⟨findings, report⟩ :=
    exists_report_ite (¬isIdentifier b.name = true) (.badName b.line b.name)
  refine ⟨findings, report.of_iff fun f => ?_⟩
  rw [Bool.not_eq_true]
  constructor
  · rintro ⟨illegal, rfl⟩
    exact ⟨⟨rfl, rfl, illegal⟩, rfl⟩
  · rintro ⟨has, first⟩
    cases f <;> try cases first
    obtain ⟨rfl, rfl, illegal⟩ := has
    exact ⟨illegal, rfl⟩

theorem exists_geneReport (b : Blueprint) :
    ∃ findings, IsReport (fun f => b.Has f ∧ f.part = 1) (geneErrors [] b.genes) findings := by
  obtain ⟨findings, report⟩ := exists_geneErrorsReport [] 0 b.genes
  refine ⟨findings, report.of_iff fun f => ?_⟩
  simp only [GeneFound, Nat.zero_add, List.not_mem_nil, false_or]
  constructor
  · rintro ⟨place, g, found, ⟨rfl, before⟩ | ⟨rfl, unknown⟩⟩
    · exact ⟨⟨found, before⟩, rfl⟩
    · exact ⟨⟨found, ofName?_eq_none_iff.mp unknown⟩, rfl⟩
  · rintro ⟨has, second⟩
    cases f <;> try cases second
    · exact ⟨_, _, has.1, Or.inl ⟨rfl, has.2⟩⟩
    · exact ⟨_, _, has.1, Or.inr ⟨rfl, ofName?_eq_none_iff.mpr has.2⟩⟩

/-- State variables are checked in the order of their keys. -/
theorem exists_stateReport (b : Blueprint) :
    ∃ findings, IsReport (fun f => b.Has f ∧ f.part = 2) (stateWarnings b) findings := by
  have precedes : b.state.entries.Pairwise fun entry later =>
      ∀ f g, VariableFound entry.1 entry.2 f → VariableFound later.1 later.2 g →
        f.Precedes g := by
    refine b.state.ascending.imp fun less f g first second => ?_
    obtain ⟨x, -, -, rfl⟩ := first
    obtain ⟨y, -, -, rfl⟩ := second
    exact .state less
  obtain ⟨findings, report⟩ := exists_report_flatMap
    (fun entry : String × Variable => exists_variableReport entry.1 entry.2) precedes
  rw [stateWarnings, Directory.values, List.flatMap_map]
  refine ⟨findings, report.of_iff fun f => ?_⟩
  constructor
  · rintro ⟨⟨key, v⟩, listed, x, number, far, rfl⟩
    exact ⟨⟨Directory.find?_eq_some_of_mem String.lt_irrefl listed, number, far⟩, rfl⟩
  · rintro ⟨has, third⟩
    cases f <;> try cases third
    obtain ⟨found, number, far⟩ := has
    exact ⟨_, Directory.mem_of_lookup found, _, number, far, rfl⟩

/-- The mutation rate is checked before the selection pressure. -/
theorem exists_settingsReport (b : Blueprint) :
    ∃ findings, IsReport (fun f => b.Has f ∧ f.part = 3) (settingDiagnostics b) findings := by
  have keys : unitSettings.Pairwise fun key later =>
      key = "mutation_rate" ∧ later = "selection_pressure" := by decide
  have precedes : unitSettings.Pairwise fun key later => ∀ f g,
      (∃ s, b.evolution.find? key = some s ∧ SettingFound key s f) →
        (∃ s, b.evolution.find? later = some s ∧ SettingFound later s g) → f.Precedes g := by
    refine keys.imp ?_
    rintro key later ⟨rfl, rfl⟩ f g ⟨s, -, first⟩ ⟨t, -, second⟩
    exact .setting first.setting second.setting
  have whole : ∃ findings, IsReport
      (fun f => ∃ key ∈ unitSettings, ∃ s, b.evolution.find? key = some s ∧ SettingFound key s f)
      (settingDiagnostics b) findings := by
    refine exists_report_flatMap (fun key => ?_) precedes
    cases b.evolution.find? key with
    | none =>
        refine ⟨[], IsReport.nil fun f found => ?_⟩
        obtain ⟨s, impossible, -⟩ := found
        cases impossible
    | some s =>
        obtain ⟨findings, report⟩ := exists_settingReport key s
        refine ⟨findings, report.of_iff fun f => ?_⟩
        simp only [Option.some.injEq, exists_eq_left']
  obtain ⟨findings, report⟩ := whole
  refine ⟨findings, report.of_iff fun f => ?_⟩
  constructor
  · rintro ⟨key, among, s, found, ⟨unreadable, rfl⟩ | ⟨x, number, far, rfl⟩⟩
    · exact ⟨⟨among, found, unreadable⟩, rfl⟩
    · exact ⟨⟨among, found, number, far⟩, rfl⟩
  · rintro ⟨has, last⟩
    cases f <;> try cases last
    · obtain ⟨among, found, unreadable⟩ := has
      exact ⟨_, among, _, found, Or.inl ⟨unreadable, rfl⟩⟩
    · obtain ⟨among, found, number, far⟩ := has
      exact ⟨_, among, _, found, Or.inr ⟨_, number, far, rfl⟩⟩

/-! ## The whole check -/

/-- Before they are sorted, the diagnostics tell of all findings, one part after the other. -/
theorem exists_report (b : Blueprint) :
    ∃ findings, IsReport b.Has
      (nameErrors b ++ geneErrors [] b.genes ++ stateWarnings b ++ settingDiagnostics b)
      findings := by
  obtain ⟨names, nameReport⟩ := exists_nameReport b
  obtain ⟨genes, geneReport⟩ := exists_geneReport b
  obtain ⟨state, stateReport⟩ := exists_stateReport b
  obtain ⟨settings, settingsReport⟩ := exists_settingsReport b
  refine ⟨names ++ genes ++ state ++ settings, (((nameReport.append geneReport ?_).append
    stateReport ?_).append settingsReport ?_).of_iff fun f => ?_⟩
  · rintro f g ⟨-, one⟩ ⟨-, two⟩
    exact .part (by omega)
  · rintro f g (⟨-, one⟩ | ⟨-, one⟩) ⟨-, two⟩ <;> exact .part (by omega)
  · rintro f g ((⟨-, one⟩ | ⟨-, one⟩) | ⟨-, one⟩) ⟨-, two⟩ <;> exact .part (by omega)
  · -- there is no other part
    have parts : f.part = 0 ∨ f.part = 1 ∨ f.part = 2 ∨ f.part = 3 := by
      cases f <;> simp [Finding.part]
    rw [← and_or_left, ← and_or_left, ← and_or_left, or_assoc, or_assoc, and_iff_left parts]

/-- Sorting puts the findings in the order of their lines, and leaves those of one line in the
order of the check. -/
theorem exists_sortedReport (b : Blueprint) :
    ∃ findings : List Finding, b.diagnostics = findings.map (·.diagnostic) ∧
      (∀ f, f ∈ findings ↔ b.Has f) ∧ findings.Pairwise Finding.Before := by
  obtain ⟨found, report⟩ := exists_report b
  let before : Finding → Finding → Bool := fun f g => f.diagnostic.lineLe g.diagnostic
  have lines : ∀ f g, before f g = true ↔ f.diagnostic.line ≤ g.diagnostic.line :=
    fun f g => decide_eq_true_iff
  have transitive : ∀ f g h, before f g → before g h → before f h := by
    intro f g h
    rw [lines, lines, lines]
    exact Nat.le_trans
  have total : ∀ f g, (before f g || before g f) = true := by
    intro f g
    rw [Bool.or_eq_true, lines, lines]
    exact Nat.le_total _ _
  refine ⟨found.mergeSort before, ?_, fun f => ?_, ?_⟩
  · rw [Blueprint.diagnostics, ← report.told]
    exact (List.map_mergeSort (f := Finding.diagnostic) fun f _ g _ => rfl).symm
  · rw [List.mem_mergeSort, report.exact]
  · have sorted := pairwise_mergeSort_of_pairwise transitive total report.ordered
    refine sorted.imp fun {f g} order => ?_
    rw [lines, lines] at order
    rcases Nat.lt_or_eq_of_le order.1 with less | same
    · exact Or.inl less
    · exact Or.inr ⟨same, order.2 (Nat.le_of_eq same.symm)⟩

/-! ## Errors -/

theorem IsReport.forall_isError_iff {Found : Finding → Prop} {diagnostics : List Diagnostic}
    {findings : List Finding} (report : IsReport Found diagnostics findings) :
    (∀ d ∈ diagnostics, d.isError = false) ↔ ∀ f, Found f → f.diagnostic.isError = false := by
  rw [← report.told, List.forall_mem_map]
  exact forall_congr' fun f => imp_congr_left (report.exact f)

/-- Everything found about genes is an error, so the genes pass if nothing is found. -/
theorem forall_isError_geneErrors_iff {genes : List GeneDeclaration} :
    (∀ d ∈ geneErrors [] genes, d.isError = false) ↔
      (genes.map (·.name)).Nodup ∧
        ∀ g ∈ genes, g.category ∈ ["sensor", "processor", "actuator", "memory"] := by
  have empty : (∀ d ∈ geneErrors [] genes, d.isError = false) ↔ geneErrors [] genes = [] := by
    rw [List.eq_nil_iff_forall_not_mem]
    refine forall₂_congr fun d member => ?_
    rw [isError_of_mem_geneErrors member]
    exact iff_of_false nofun id
  have unseen : ∀ g ∈ genes, g.name ∉ [] := fun g _ => List.not_mem_nil
  have known : ∀ text, (Gene.Category.ofName? text).isSome = true ↔
      text ∈ ["sensor", "processor", "actuator", "memory"] := by
    intro text
    rw [← not_iff_not, ← ofName?_eq_none_iff, Bool.not_eq_true, Option.isSome_eq_false_iff,
      Option.isNone_iff_eq_none]
  rw [empty, geneErrors_eq_nil_iff, and_iff_right unseen]
  simp only [known]

theorem Setting.number?_eq_none_iff {s : Setting} :
    s.number? = none ↔
      ¬∃ x, Number.read? s.value.toList = some x ∧ Number.isFinite x = true := by
  rw [← Option.not_isSome_iff_eq_none, Option.isSome_iff_exists]
  simp only [number?, Option.filter_eq_some_iff]

/-- What a blueprint has to be like to pass.  About state variables there are warnings only. -/
theorem Blueprint.errors_eq_nil_iff_legal :
    b.errors = [] ↔
      isIdentifier b.name = true ∧ (b.genes.map (·.name)).Nodup ∧
        (∀ g ∈ b.genes, g.category ∈ ["sensor", "processor", "actuator", "memory"]) ∧
        ∀ key ∈ ["mutation_rate", "selection_pressure"], ∀ s,
          b.evolution.find? key = some s →
            ∃ x, Number.read? s.value.toList = some x ∧ Number.isFinite x = true := by
  obtain ⟨_, nameReport⟩ := exists_nameReport b
  obtain ⟨_, stateReport⟩ := exists_stateReport b
  obtain ⟨_, settingsReport⟩ := exists_settingsReport b
  have name : (∀ d ∈ nameErrors b, d.isError = false) ↔ isIdentifier b.name = true := by
    rw [nameReport.forall_isError_iff]
    constructor
    · intro passes
      by_contra illegal
      cases passes (.badName b.line b.name) ⟨⟨rfl, rfl, Bool.eq_false_iff.mpr illegal⟩, rfl⟩
    · rintro legal f ⟨has, first⟩
      cases f <;> try cases first
      obtain ⟨rfl, rfl, illegal⟩ := has
      rw [illegal] at legal
      cases legal
  have state : ∀ d ∈ stateWarnings b, d.isError = false := by
    rw [stateReport.forall_isError_iff]
    rintro f ⟨-, third⟩
    cases f <;> try cases third
    rfl
  have settings : (∀ d ∈ settingDiagnostics b, d.isError = false) ↔
      ∀ key ∈ ["mutation_rate", "selection_pressure"], ∀ s,
        b.evolution.find? key = some s →
          ∃ x, Number.read? s.value.toList = some x ∧ Number.isFinite x = true := by
    rw [settingsReport.forall_isError_iff]
    constructor
    · intro passes key among s found
      by_contra unreadable
      cases passes (.noNumber key s)
        ⟨⟨among, found, Setting.number?_eq_none_iff.mpr unreadable⟩, rfl⟩
    · rintro readable f ⟨has, last⟩
      cases f <;> try cases last
      · obtain ⟨among, found, unreadable⟩ := has
        exact absurd (readable _ among _ found) (Setting.number?_eq_none_iff.mp unreadable)
      · rfl
  rw [errors_eq_nil_iff, diagnostics]
  simp only [List.mem_mergeSort, List.forall_mem_append]
  rw [name, forall_isError_geneErrors_iff, and_iff_left state, settings, and_assoc, and_assoc]

/-! ## Duplicate names -/

/-- The diagnostic tells of a name that was used before. -/
def Diagnostic.tellsDuplicate (d : Diagnostic) : Bool :=
  "Duplicate gene name '".toList.isPrefixOf d.message.toList

/-- The findings about duplicate names can be told from the others by their texts. -/
theorem Finding.tellsDuplicate_iff (f : Finding) :
    f.diagnostic.tellsDuplicate = true ↔ ∃ place g, f = repeatedGene place g := by
  cases f <;> simp [diagnostic, Diagnostic.tellsDuplicate, Diagnostic.semantic, Diagnostic.warning]

theorem IsReport.countP_eq_zero {Found : Finding → Prop} {diagnostics : List Diagnostic}
    {findings : List Finding} (report : IsReport Found diagnostics findings)
    (none : ∀ place g, ¬Found (.repeatedGene place g)) :
    diagnostics.countP Diagnostic.tellsDuplicate = 0 := by
  rw [← report.told, List.countP_eq_zero]
  refine List.forall_mem_map.mpr fun f member tells => ?_
  obtain ⟨place, g, rfl⟩ := f.tellsDuplicate_iff.mp tells
  exact none place g ((report.exact _).mp member)

/-- Each gene is reported whose name is not new, so that each name is spared once. -/
theorem countP_geneErrors (seen : List String) (genes : List GeneDeclaration) :
    (geneErrors seen genes).countP Diagnostic.tellsDuplicate +
        (seen.reverse ++ genes.map (·.name)).eraseDups.length =
      genes.length + seen.reverse.eraseDups.length := by
  induction genes generalizing seen with
  | nil => simp [geneErrors]
  | cons g rest inductionHypothesis =>
      obtain ⟨_, report⟩ := exists_categoryReport 0 g
      have category : (categoryError g).countP Diagnostic.tellsDuplicate = 0 := by
        refine report.countP_eq_zero ?_
        rintro place h ⟨-, impossible⟩
        cases impossible
      have duplicate : (duplicateError seen g).countP Diagnostic.tellsDuplicate +
          (seen.reverse ++ [g.name]).eraseDups.length = 1 + seen.reverse.eraseDups.length := by
        have tells := (Finding.repeatedGene 0 g).tellsDuplicate_iff.mpr ⟨0, g, rfl⟩
        rw [eraseDups_concat, duplicateError]
        by_cases known : g.name ∈ seen
        · rw [if_pos (List.mem_reverse.mpr known), if_pos (List.contains_iff_mem.mpr known),
            List.countP_singleton]
          exact congrArg (· + _) (if_pos tells)
        · rw [if_neg (mt List.mem_reverse.mp known), if_neg (mt List.contains_iff_mem.mp known),
            List.countP_nil, List.length_append, List.length_singleton, Nat.zero_add, Nat.add_comm]
      have later := inductionHypothesis (g.name :: seen)
      rw [List.reverse_cons, List.append_assoc, List.singleton_append] at later
      rw [geneErrors, List.countP_append, List.countP_append, List.map_cons, List.length_cons]
      omega

/-- There are as many errors about duplicate names as genes beyond one for each name. -/
theorem Blueprint.countP_diagnostics (b : Blueprint) :
    b.diagnostics.countP Diagnostic.tellsDuplicate + (b.genes.map (·.name)).eraseDups.length =
      b.genes.length := by
  obtain ⟨_, nameReport⟩ := exists_nameReport b
  obtain ⟨_, stateReport⟩ := exists_stateReport b
  obtain ⟨_, settingsReport⟩ := exists_settingsReport b
  have name := nameReport.countP_eq_zero fun _ _ => nofun
  have state := stateReport.countP_eq_zero fun _ _ => nofun
  have settings := settingsReport.countP_eq_zero fun _ _ => nofun
  have genes := countP_geneErrors [] b.genes
  rw [List.reverse_nil, List.nil_append, List.eraseDups_nil, List.length_nil] at genes
  rw [diagnostics, (List.mergeSort_perm _ _).countP_eq, List.countP_append, List.countP_append,
    List.countP_append]
  omega

/-! ## Sources -/

/-- State variables are kept under their names. -/
def Blueprint.IsKeyed (b : Blueprint) : Prop :=
  ∀ key v, b.state.find? key = some v → v.name = key

theorem Blueprint.IsKeyed.of_state (undeclared : b.state = .empty) : b.IsKeyed := by
  intro key v found
  rw [undeclared, Directory.find?_empty] at found
  cases found

theorem Blueprint.IsKeyed.declare (keyed : b.IsKeyed) (v : Variable) : (b.declare v).IsKeyed := by
  intro key w found
  rw [Blueprint.declare, Directory.find?_insert] at found
  split at found
  · rename_i same
    cases found
    exact same.symm
  · exact keyed key w found

theorem Blueprint.IsKeyed.addSection (keyed : b.IsKeyed) (source : List Char) (s : Section) :
    (b.addSection source s).IsKeyed := by
  unfold Blueprint.addSection
  split
  · exact List.foldlRecOn _ _ keyed fun _ keyed v _ => keyed.declare v
  split
  · exact keyed
  split
  · exact keyed
  · exact List.foldlRecOn _ _ keyed fun _ keyed _ _ => keyed

theorem Blueprint.isKeyed_ofSource (source : String) : (ofSource source).IsKeyed := by
  unfold ofSource ofTokens
  split
  · exact IsKeyed.of_state rfl
  · exact List.foldlRecOn _ _ (IsKeyed.of_state rfl) fun _ keyed s _ => keyed.addSection _ s

/-- **The check is exact.**  Its report tells of the findings about the blueprint, of each once
and of nothing else, by line and on one line in the order of the check.  Hence there is no error
if and only if the name is an identifier, the genes have different names and known categories, and
the two rates are finite numbers where they are set.  There are as many errors about duplicate
names as genes beyond one for each name, and no setting gets both an error and a warning.  The
state variables of a source are told in the order of their names, under which they are kept. -/
theorem Blueprint.diagnostics_exact (b : Blueprint) :
    (∃ findings : List Finding, b.diagnostics = findings.map (·.diagnostic) ∧
      (∀ f, f ∈ findings ↔ b.Has f) ∧ findings.Nodup ∧ findings.Pairwise Finding.Before) ∧
    (b.errors = [] ↔
      isIdentifier b.name = true ∧ (b.genes.map (·.name)).Nodup ∧
        (∀ g ∈ b.genes, g.category ∈ ["sensor", "processor", "actuator", "memory"]) ∧
        ∀ key ∈ ["mutation_rate", "selection_pressure"], ∀ s,
          b.evolution.find? key = some s →
            ∃ x, Number.read? s.value.toList = some x ∧ Number.isFinite x = true) ∧
    b.diagnostics.countP Diagnostic.tellsDuplicate + (b.genes.map (·.name)).eraseDups.length =
      b.genes.length ∧
    (∀ key s t x, ¬(b.Has (.noNumber key s) ∧ b.Has (.farSetting key t x))) ∧
    b.diagnostics.Pairwise (fun d e => d.line ≤ e.line) ∧
    ∀ source key v, (ofSource source).state.find? key = some v → v.name = key := by
  obtain ⟨findings, told, exact, ordered⟩ := exists_sortedReport b
  refine ⟨⟨findings, told, exact, ordered.imp Finding.Before.ne, ordered⟩, errors_eq_nil_iff_legal,
    b.countP_diagnostics, ?_, ?_, isKeyed_ofSource⟩
  · rintro key s t x ⟨⟨-, found, unreadable⟩, -, again, number, -⟩
    rw [found] at again
    cases again
    rw [unreadable] at number
    cases number
  · rw [told, List.pairwise_map]
    refine ordered.imp fun before => ?_
    rcases before with less | ⟨same, -⟩
    · exact Nat.le_of_lt less
    · exact Nat.le_of_eq same

end Vivarium.Source
