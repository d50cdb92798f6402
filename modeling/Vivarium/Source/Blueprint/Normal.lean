import Vivarium.Source.Blueprint
import Vivarium.Text.Blank

/-!
# Normal blueprints

A blueprint is brought to a normal form before an organism grows from it.  Each
gene name occurs once, at the place of its first occurrence and with the longest
body given for it.  The workflow has single spaces for runs of blanks, one
semicolon for a run of semicolons with blanks between them, and no blank at
either end.  A normal blueprint is its own normal form.

Main definitions:

* `mergeGenes`: one gene for each name;
* `collapseBlanks`, `collapseSemicolons`, `normalWorkflow`: the workflow;
* `Blueprint.normal`: the normal form.
-/

namespace Vivarium.Source

open Vivarium.Text (isBlank trim)

/-- The genes with one more: in place of a gene of the same name if its body is
longer, and at the end if there is none. -/
def mergeGene (g : GeneDeclaration) : List GeneDeclaration → List GeneDeclaration
  | [] => [g]
  | kept :: rest =>
      if kept.name = g.name then
        (if kept.body.length < g.body.length then g else kept) :: rest
      else kept :: mergeGene g rest

/-- One gene for each name, in the order of first occurrence.  Of genes with one
name the first with the longest body stays. -/
def mergeGenes (genes : List GeneDeclaration) : List GeneDeclaration :=
  genes.foldl (fun kept g => mergeGene g kept) []

/-- A single space for every run of blanks.  The flag tells that the character
before the text was a blank. -/
def collapseBlanks (afterBlank : Bool) : List Char → List Char
  | [] => []
  | c :: rest =>
      if isBlank c then
        if afterBlank then collapseBlanks true rest else ' ' :: collapseBlanks true rest
      else c :: collapseBlanks false rest

/-- The text behind the semicolons that follow another one, blanks between them
included.  Blanks that no semicolon follows stay. -/
def dropSemicolons : List Char → List Char
  | [] => []
  | ';' :: rest => dropSemicolons rest
  | c :: rest =>
      if isBlank c then
        match _next : rest.dropWhile isBlank with
        | ';' :: after =>
            have := (List.dropWhile_suffix isBlank (l := rest)).length_le
            dropSemicolons after
        | _ => c :: rest
      else c :: rest
termination_by text => text.length
decreasing_by
  · simp
  · simp only [List.length_cons] at *
    rw [_next, List.length_cons] at this
    omega

theorem length_dropSemicolons_le (text : List Char) :
    (dropSemicolons text).length ≤ text.length := by
  fun_induction dropSemicolons text with
  | case1 => simp
  | case2 rest inductionHypothesis => simp only [List.length_cons]; omega
  | case3 c rest _ _ after next shorter inductionHypothesis =>
      rw [next, List.length_cons] at shorter
      simp only [List.length_cons]
      omega
  | case4 => simp
  | case5 => simp

/-- One semicolon for every run of semicolons with blanks between them. -/
def collapseSemicolons : List Char → List Char
  | [] => []
  | c :: rest =>
      if c = ';' then
        have := length_dropSemicolons_le rest
        ';' :: collapseSemicolons (dropSemicolons rest)
      else c :: collapseSemicolons rest
termination_by text => text.length
decreasing_by all_goals (simp only [List.length_cons]; omega)

/-- The normal form of a workflow text. -/
def normalWorkflow (workflow : String) : String :=
  String.ofList (trim (collapseSemicolons (collapseBlanks false workflow.toList)))

/-- The normal form of a blueprint. -/
def Blueprint.normal (b : Blueprint) : Blueprint :=
  { b with genes := mergeGenes b.genes, workflow := normalWorkflow b.workflow }

end Vivarium.Source
