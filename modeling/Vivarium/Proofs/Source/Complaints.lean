import Vivarium.Source.Outline

/-!
# Complaints about the outline

Three checks go over the tokens of a source, and their reports are sorted into one.  What they
complain about can still be told apart: a message about a declaration, about a brace or about the
type of a state variable starts in a way of its own.

Main definitions:

* `Diagnostic.IsComplaint`: an error of the arrangement whose message starts in one of some ways;
* `declarationStarts`, `stateTypeStarts`: how the messages about declarations and types start.

Main statements:

* `isComplaint_of_mem_declarationErrors`, `isComplaint_of_mem_stateTypeErrors`: what the two
  checks report.
-/

namespace Vivarium.Source

/-- The diagnostic is an error in the arrangement of the tokens, and its message starts with one
of the texts. -/
structure Diagnostic.IsComplaint (starts : List String) (d : Diagnostic) : Prop where
  structural : d.category = .structural
  starts : ∃ start ∈ starts, start.toList <+: d.message.toList

/-- How messages about declarations start. -/
def declarationStarts : List String :=
  ["Missing organism declaration", "Organism declaration", "Only one organism declaration",
   "Invalid organism name '", "'", "Gene declaration"]

/-- How messages about the types of state variables start. -/
def stateTypeStarts : List String := ["Unknown type '"]

theorem Token.isComplaint_complain (t : Token) {starts : List String} (start rest : String)
    (listed : start ∈ starts) : (t.complain (start ++ rest)).IsComplaint starts :=
  ⟨rfl, start, listed, by simp [Token.complain, Diagnostic.structural]⟩

theorem isComplaint_of_mem_organismNameErrors (t : Token) (rest : List Token) :
    ∀ d ∈ organismNameErrors t rest, d.IsComplaint declarationStarts := by
  unfold organismNameErrors
  split
  · rename_i name _
    split
    · exact List.forall_mem_nil _
    · rw [String.append_assoc]
      exact List.forall_mem_singleton.mpr (name.isComplaint_complain _ _ (by decide))
  · exact List.forall_mem_singleton.mpr
      (t.isComplaint_complain "Organism declaration" " requires a name" (by decide))

theorem isComplaint_of_mem_sectionErrors (depth : Nat) (t : Token) (rest : List Token) :
    ∀ d ∈ sectionErrors depth t rest, d.IsComplaint declarationStarts := by
  refine List.forall_mem_append.mpr ⟨?_, ?_⟩
  · split
    · rw [String.append_assoc]
      exact List.forall_mem_singleton.mpr (t.isComplaint_complain _ _ (by decide))
    · exact List.forall_mem_nil _
  · split
    · exact List.forall_mem_singleton.mpr
        (t.isComplaint_complain "Gene declaration" " requires a valid identifier" (by decide))
    · exact List.forall_mem_nil _

theorem isComplaint_of_mem_declarationErrors (depth declared : Nat) (tokens : List Token) :
    ∀ d ∈ declarationErrors depth declared tokens, d.IsComplaint declarationStarts := by
  fun_induction declarationErrors depth declared tokens with
  | case1 =>
      exact List.forall_mem_singleton.mpr
        ⟨rfl, "Missing organism declaration", by decide, List.prefix_refl _⟩
  | case2 => exact List.forall_mem_nil _
  | case3 _ _ _ _ _ inductionHypothesis => exact inductionHypothesis
  | case4 _ _ _ _ _ _ inductionHypothesis => exact inductionHypothesis
  | case5 _ _ t _ _ _ _ _ inductionHypothesis =>
      exact List.forall_mem_cons.mpr
        ⟨t.isComplaint_complain "Organism declaration" "s cannot be nested" (by decide),
          inductionHypothesis⟩
  | case6 _ _ t rest _ _ _ _ repeated inductionHypothesis =>
      have again : ∀ d ∈ repeated, d.IsComplaint declarationStarts := by
        unfold repeated
        split
        · exact List.forall_mem_singleton.mpr
            (t.isComplaint_complain "Only one organism declaration" " is allowed per source"
              (by decide))
        · exact List.forall_mem_nil _
      exact List.forall_mem_append.mpr ⟨List.forall_mem_append.mpr
        ⟨again, isComplaint_of_mem_organismNameErrors t rest⟩, inductionHypothesis⟩
  | case7 depth _ t rest _ _ _ _ inductionHypothesis =>
      exact List.forall_mem_append.mpr
        ⟨isComplaint_of_mem_sectionErrors depth t rest, inductionHypothesis⟩
  | case8 _ _ _ _ _ _ _ _ inductionHypothesis => exact inductionHypothesis

theorem isComplaint_of_mem_stateTypeErrors (previous : Option Token) (tokens : List Token) :
    ∀ d ∈ stateTypeErrors previous tokens, d.IsComplaint stateTypeStarts := by
  induction tokens generalizing previous with
  | nil => exact List.forall_mem_nil _
  | cons name rest inductionHypothesis =>
      refine List.forall_mem_append.mpr ⟨?_, inductionHypothesis _⟩
      split
      · split
        · unfold stateTypeError unknownType
          split
          · simp only [String.append_assoc]
            exact List.forall_mem_singleton.mpr (Token.isComplaint_complain _ _ _ (by decide))
          · exact List.forall_mem_nil _
        · exact List.forall_mem_nil _
      · exact List.forall_mem_nil _

end Vivarium.Source
