import Vivarium.Proofs.Directory
import Vivarium.Proofs.Source.Nesting
import Vivarium.Proofs.Source.Piece

/-!
# Drafts

A draft is an organism before it is written down: names that are identifiers and no
keywords, numbers as literals, and texts that may hold anything — comments, strings,
keywords, braces inside of these — as long as they are trimmed and their brace tokens
balance.  Each of these conditions is part of the type, so every draft can be written
as a source and says which blueprint that source is meant to have.

Main definitions:

* `Name`, `Literal`, `Prose`: names, numbers and texts that can be written;
* `Draft`, `Draft.source`: an organism and the source it is written as;
* `Draft.blueprint`: what the draft says, without the lines of the source.

Main statements:

* `Literal.read?_text`: a literal is read as the number it denotes.
-/

namespace Vivarium.Source

open Vivarium.Text (trim)

/-! ## What can be written -/

/-- An identifier that is not reserved. -/
structure Name where
  text : String
  legal : isIdentifier text = true
  free : keywords.contains text = false

/-- A decimal with an optional sign and an optional fraction. -/
structure Literal where
  negative : Bool
  whole : List Char
  fraction : List Char
  nonempty : whole ≠ []
  wholeDigits : ∀ c ∈ whole, c.isDigit = true
  fractionDigits : ∀ c ∈ fraction, c.isDigit = true

/-- A trimmed text whose brace tokens balance. -/
structure Prose where
  text : String
  trimmed : trim text.toList = text.toList
  balanced : Balanced (tokenize text)

namespace Literal

/-- The characters of a literal. -/
def chars (l : Literal) : List Char :=
  if l.negative then '-' :: decimal l.whole l.fraction else decimal l.whole l.fraction

/-- The text of a literal. -/
def text (l : Literal) : String := String.ofList l.chars

/-- The number a literal denotes: the double nearest to its decimal value. -/
def value (l : Literal) : Float :=
  Number.withSign l.negative
    (Number.ofDecimal (Number.digitsValue (l.whole ++ l.fraction)) (-(l.fraction.length : Int)))

end Literal

theorem toLower_of_isDigit {c : Char} (digit : c.isDigit = true) : c.toLower = c := by
  have range := isDigit_iff.mp digit
  have notUpper : ¬(c.val ≥ 65 ∧ c.val ≤ 90) := by
    rintro ⟨least, -⟩
    have least : 65 ≤ c.toNat := least
    omega
  exact dif_neg notUpper

/-- A decimal is taken apart at its point. -/
theorem ofText?_decimal {whole fraction : List Char} (nonempty : whole ≠ [])
    (wholeDigits : ∀ c ∈ whole, c.isDigit = true)
    (fractionDigits : ∀ c ∈ fraction, c.isDigit = true) :
    Number.Numeral.ofText? (decimal whole fraction) = some ⟨whole, fraction, 0⟩ := by
  have someDigit : whole.isEmpty = false := List.isEmpty_eq_false_iff.mpr nonempty
  cases fraction with
  | nil =>
      have ends : ∀ c, ([] : List Char).head? = some c → c.isDigit = false := by
        rintro c ⟨⟩
      have run := takeWhile_append_of_stop wholeDigits ends
      rw [List.append_nil] at run
      show Number.Numeral.ofText? whole = _
      rw [Number.Numeral.ofText?]
      simp [run.1, run.2, someDigit, Number.exponent?]
  | cons d rest =>
      have dot : ∀ c, ('.' :: d :: rest).head? = some c → c.isDigit = false := by
        rintro c ⟨⟩
        decide
      have run := takeWhile_append_of_stop wholeDigits dot
      have ends : ∀ c, ([] : List Char).head? = some c → c.isDigit = false := by
        rintro c ⟨⟩
      have restRun := takeWhile_append_of_stop fractionDigits ends
      rw [List.append_nil] at restRun
      show Number.Numeral.ofText? (whole ++ '.' :: d :: rest) = _
      rw [Number.Numeral.ofText?, run.1, run.2]
      simp only [restRun.1, restRun.2, someDigit, Bool.false_and, Number.exponent?]
      rfl

/-- A text that starts with a digit is neither an infinity nor a NaN. -/
theorem readUnsigned?_of_digit {first : Char} {more : List Char}
    (digit : first.isDigit = true) :
    Number.readUnsigned? (first :: more) =
      (Number.Numeral.ofText? (first :: more)).map Number.Numeral.value := by
  have range := isDigit_iff.mp digit
  have noLetter : ∀ (letter : Char) (others : List Char), 57 < letter.toNat →
      (first :: more).map Char.toLower ≠ letter :: others := by
    intro letter others above same
    rw [List.map_cons, toLower_of_isDigit digit] at same
    rw [(List.cons.inj same).1] at range
    omega
  have noInf : (first :: more).map Char.toLower ≠ "inf".toList :=
    noLetter 'i' ['n', 'f'] (by decide)
  have noInfinity : (first :: more).map Char.toLower ≠ "infinity".toList :=
    noLetter 'i' ['n', 'f', 'i', 'n', 'i', 't', 'y'] (by decide)
  have noNan : (first :: more).map Char.toLower ≠ "nan".toList :=
    noLetter 'n' ['a', 'n'] (by decide)
  rw [Number.readUnsigned?, decide_eq_false noInf, decide_eq_false noInfinity, if_neg noNan]
  rfl

namespace Literal

/-- A decimal starts with a digit. -/
theorem decimal_eq_cons (l : Literal) :
    ∃ first more, decimal l.whole l.fraction = first :: more ∧ first.isDigit = true := by
  obtain ⟨first, more, spelled⟩ := List.exists_cons_of_ne_nil l.nonempty
  have digit := l.wholeDigits first (spelled ▸ List.mem_cons_self)
  rw [decimal, spelled]
  split
  · exact ⟨first, more, rfl, digit⟩
  · exact ⟨first, _, List.cons_append, digit⟩

/-- A literal is read as the number it denotes. -/
theorem read?_text (l : Literal) : Number.read? l.text.toList = some l.value := by
  obtain ⟨first, more, spelled, digit⟩ := l.decimal_eq_cons
  have range := isDigit_iff.mp digit
  have signed : Number.splitSign l.chars = (l.negative, decimal l.whole l.fraction) := by
    rw [chars]
    cases l.negative with
    | true => rfl
    | false =>
        -- the first character is a digit, hence no sign
        rw [if_neg (by decide), spelled, Number.splitSign]
        · rintro rest ⟨⟩
          revert range
          decide
        · rintro rest ⟨⟩
          revert range
          decide
  have unsigned : Number.readUnsigned? (decimal l.whole l.fraction) =
      some (Number.ofDecimal (Number.digitsValue (l.whole ++ l.fraction))
        (-(l.fraction.length : Int))) := by
    rw [spelled, readUnsigned?_of_digit digit, ← spelled,
      ofText?_decimal l.nonempty l.wholeDigits l.fractionDigits]
    simp only [Option.map_some, Number.Numeral.value, Int.zero_sub]
  rw [text, String.toList_ofList, Number.read?, signed]
  simp only [unsigned, Option.map_some]
  rfl

end Literal

/-- The types of a state variable that holds a number. -/
inductive NumericType where
  | float
  | int
  deriving Repr, DecidableEq

/-- The name under which a source declares a numeric type. -/
def NumericType.name : NumericType → String
  | .float => "float"
  | .int => "int"

/-- A state variable with its first value. -/
structure VariableDraft where
  name : Name
  ty : NumericType
  value : Literal

/-- A gene.  Its category is written in lower case. -/
structure GeneDraft where
  name : Name
  category : Name
  lower : lowerCase category.text = category.text
  body : Prose

/-- A setting of the evolution section. -/
structure SettingDraft where
  key : Name
  value : Literal

/-- An organism that can be written down.  State variables and settings are listed in
any order, but each name only once. -/
structure Draft where
  name : Name
  state : List VariableDraft
  stateDistinct : (state.map (·.name.text)).Nodup
  genes : List GeneDraft
  workflow : Prose
  evolution : List SettingDraft
  keysDistinct : (evolution.map (·.key.text)).Nodup
  goal : Option Prose

/-! ## The source of a draft -/

/-- The lines of a block: a header with a brace, what is inside, and the closing
brace. -/
def block (header : String) (inside : List String) : List String :=
  (header ++ " \x7b") :: (inside ++ ["\x7d"])

/-- The declaration of a state variable. -/
def VariableDraft.line (v : VariableDraft) : String :=
  v.name.text ++ ": " ++ v.ty.name ++ " = " ++ v.value.text ++ ";"

/-- The lines of a gene. -/
def GeneDraft.lines (g : GeneDraft) : List String :=
  block ("gene " ++ g.name.text ++ ": " ++ g.category.text) [g.body.text]

/-- The line of a setting. -/
def SettingDraft.line (s : SettingDraft) : String := s.key.text ++ ": " ++ s.value.text ++ ";"

namespace Draft

/-- The lines of the fitness goal, if there is one. -/
def goalLines (d : Draft) : List String :=
  match d.goal with
  | some goal => block "fitness_goal" [goal.text]
  | none => []

/-- The lines of the organism body. -/
def bodyLines (d : Draft) : List String :=
  block "state" (d.state.map VariableDraft.line) ++ d.genes.flatMap GeneDraft.lines ++
    block "workflow" [d.workflow.text] ++
    block "evolution" (d.evolution.map SettingDraft.line ++ d.goalLines)

/-- The lines of the whole source. -/
def lines (d : Draft) : List String := block ("organism " ++ d.name.text) d.bodyLines

/-- The source that a draft is written as. -/
def source (d : Draft) : String := String.ofList (unlines (d.lines.map String.toList))

end Draft

/-! ## The blueprint of a draft -/

/-- A state variable without its line. -/
def Variable.unplaced (v : Variable) : Variable := { v with line := 0 }

/-- A gene without its line. -/
def GeneDeclaration.unplaced (g : GeneDeclaration) : GeneDeclaration := { g with line := 0 }

/-- A setting without its line. -/
def Setting.unplaced (s : Setting) : Setting := { s with line := 0 }

/-- A blueprint without the lines of its source. -/
def Blueprint.unplaced (b : Blueprint) : Blueprint where
  name := b.name
  line := 0
  state := b.state.mapValues fun _ v => v.unplaced
  genes := b.genes.map GeneDeclaration.unplaced
  workflow := b.workflow
  evolution := b.evolution.mapValues fun _ s => s.unplaced

/-- A setting with its key, without its line. -/
def unplacedEntry (entry : String × Setting) : String × Setting := (entry.1, entry.2.unplaced)

/-- Variables can be declared without their lines. -/
theorem Blueprint.unplaced_foldl_declare (declarations : List Variable) (b : Blueprint) :
    (declarations.foldl declare b).unplaced =
      (declarations.map Variable.unplaced).foldl declare b.unplaced := by
  induction declarations generalizing b with
  | nil => rfl
  | cons v others inductionHypothesis =>
      rw [List.foldl_cons, inductionHypothesis, List.map_cons, List.foldl_cons]
      simp only [unplaced, declare, Directory.mapValues_insert, Variable.unplaced]

/-- Settings can be set without their lines. -/
theorem Blueprint.unplaced_foldl_set (entries : List (String × Setting)) (b : Blueprint) :
    (entries.foldl (fun b entry => b.set entry.1 entry.2) b).unplaced =
      (entries.map unplacedEntry).foldl (fun b entry => b.set entry.1 entry.2) b.unplaced := by
  induction entries generalizing b with
  | nil => rfl
  | cons entry others inductionHypothesis =>
      rw [List.foldl_cons, inductionHypothesis, List.map_cons, List.foldl_cons]
      simp only [unplaced, set, Directory.mapValues_insert, unplacedEntry]

theorem Blueprint.foldl_declare (declarations : List Variable) (b : Blueprint) :
    declarations.foldl declare b =
      { b with state := declarations.foldl (fun d v => d.insert v.name v) b.state } := by
  induction declarations generalizing b with
  | nil => rfl
  | cons v others inductionHypothesis =>
      rw [List.foldl_cons, inductionHypothesis, List.foldl_cons]
      rfl

theorem Blueprint.foldl_set (entries : List (String × Setting)) (b : Blueprint) :
    entries.foldl (fun b entry => b.set entry.1 entry.2) b =
      { b with
        evolution := entries.foldl (fun d entry => d.insert entry.1 entry.2) b.evolution } := by
  induction entries generalizing b with
  | nil => rfl
  | cons entry others inductionHypothesis =>
      rw [List.foldl_cons, inductionHypothesis, List.foldl_cons]
      rfl

/-- The declaration that a state variable is read as. -/
def VariableDraft.declared (v : VariableDraft) : Variable :=
  ⟨v.name.text, v.ty.name, .number v.value.value, 0⟩

/-- The declaration that a gene is read as. -/
def GeneDraft.declared (g : GeneDraft) : GeneDeclaration :=
  ⟨g.name.text, g.category.text, g.body.text, 0⟩

/-- The setting that a line is read as, with its key. -/
def SettingDraft.declared (s : SettingDraft) : String × Setting :=
  (s.key.text, ⟨s.value.text, 0⟩)

namespace Draft

/-- The settings with the text of their values, the fitness goal last. -/
def settings (d : Draft) : List (String × Setting) :=
  d.evolution.map SettingDraft.declared ++
    (d.goal.map fun goal => ("fitness_goal", (⟨goal.text, 0⟩ : Setting))).toList

/-- What a draft says. -/
def blueprint (d : Draft) : Blueprint where
  name := d.name.text
  line := 0
  state := Directory.ofList (d.state.map fun v => (v.name.text, v.declared))
  genes := d.genes.map GeneDraft.declared
  workflow := d.workflow.text
  evolution := Directory.ofList d.settings

end Draft

end Vivarium.Source
