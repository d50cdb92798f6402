import Mathlib.Order.Bounds.Basic
import Vivarium.Proofs.Listing
import Vivarium.Proofs.Source.Complaints
import Vivarium.Proofs.Source.Partners
import Vivarium.Proofs.Source.Scan

/-!
# Diagnostics about braces

The outline complains about the braces that have no partner, about each of them once and in
their order, and about no other brace.  It does not complain more than it has to: without the
braces that it names the tokens are balanced, and they cannot be balanced by taking fewer braces
away, since more blocks are closed than opened in front of the first brace that stays open, and
more are opened than closed behind it.

Main definitions:

* `IsPruned`, `BalancesWithout`: braces taken out of a run, and how many balance it.

Main statements:

* `Leaves.isLeast`: as many braces have to be taken away as are left;
* `braceErrors_eq`: what is reported about braces;
* `outlineErrors_braces_exact`: the reports about braces among all the others.
-/

namespace Vivarium.Source

variable {tokens front rest : List Token}

/-! ## Braces taken away -/

/-- Some braces were taken out of a run, and nothing else. -/
structure IsPruned (tokens kept : List Token) : Prop where
  sublist : kept.Sublist tokens
  others : (kept.filter fun t => !t.isBrace) = tokens.filter fun t => !t.isBrace

/-- The run is balanced when so many braces of it are taken away. -/
def BalancesWithout (tokens : List Token) (count : Nat) : Prop :=
  ∃ kept, IsPruned tokens kept ∧ Balanced kept ∧ kept.length + count = tokens.length

theorem IsPruned.append {kept more : List Token} (pruned : IsPruned front kept)
    (further : IsPruned rest more) : IsPruned (front ++ rest) (kept ++ more) where
  sublist := pruned.sublist.append further.sublist
  others := by rw [List.filter_append, List.filter_append, pruned.others, further.others]

theorem IsPruned.refl (tokens : List Token) : IsPruned tokens tokens := ⟨List.Sublist.refl _, rfl⟩

/-- A brace in front is taken away. -/
theorem IsPruned.brace {t : Token} (brace : t.isBrace = true) (run : List Token) :
    IsPruned (t :: run) run where
  sublist := List.sublist_cons_self t run
  others := by rw [List.filter_cons_of_neg (by simp [brace])]

/-- Whatever is kept of a list, no more members of a kind are missing than members at all. -/
theorem countP_add_length_le {kept : List Token} (sublist : kept.Sublist tokens)
    (kind : Token → Bool) :
    tokens.countP kind + kept.length ≤ tokens.length + kept.countP kind := by
  have others := sublist.countP_le (p := fun t => !kind t)
  have all := List.length_eq_countP_add_countP kind (l := tokens)
  have some := List.length_eq_countP_add_countP kind (l := kept)
  simp only [Bool.not_eq_true, ← Bool.not_eq_true'] at all some
  simp only [Bool.decide_eq_true] at all some
  omega

namespace Leaves

variable {closing opening : List Token}

/-- Without the braces that are left the run is balanced. -/
theorem exists_pruned (leaves : Leaves tokens closing opening) :
    ∃ kept, IsPruned tokens kept ∧ Balanced kept ∧
      kept.length + (closing.length + opening.length) = tokens.length := by
  induction leaves with
  | @balanced run balanced => exact ⟨run, .refl run, balanced, rfl⟩
  | @closing front closing run brace before closes balanced inductionHypothesis =>
      obtain ⟨kept, pruned, whole, size⟩ := inductionHypothesis
      have taken : brace.isBrace = true := Bool.or_eq_true_iff.mpr (Or.inr closes)
      refine ⟨kept ++ run, pruned.append (.brace taken run), whole.append balanced, ?_⟩
      simp only [List.length_append, List.length_cons, List.length_nil] at size ⊢
      omega
  | @opening front closing opening run brace before opens balanced inductionHypothesis =>
      obtain ⟨kept, pruned, whole, size⟩ := inductionHypothesis
      have taken : brace.isBrace = true := Bool.or_eq_true_iff.mpr (Or.inl opens)
      refine ⟨kept ++ run, pruned.append (.brace taken run), whole.append balanced, ?_⟩
      simp only [List.length_append, List.length_cons, List.length_nil] at size ⊢
      omega

/-- In front of the first brace that stays open more blocks are closed than opened, and behind it
more are opened than closed. -/
theorem exists_excess (leaves : Leaves tokens closing opening) :
    ∃ first second, tokens = first ++ second ∧
      first.countP (·.closesBlock) = first.countP (·.opensBlock) + closing.length ∧
      second.countP (·.opensBlock) = second.countP (·.closesBlock) + opening.length := by
  induction leaves with
  | @balanced run balanced => exact ⟨run, [], by simp, (balanced_iff.mp balanced).2, rfl⟩
  | @closing front closing run brace before closes balanced inductionHypothesis =>
      obtain ⟨first, second, rfl, closed, opened⟩ := inductionHypothesis
      refine ⟨first ++ second ++ brace :: run, [], by simp, ?_, rfl⟩
      have even := (balanced_iff.mp balanced).2
      simp only [List.countP_append, List.countP_cons, closes,
        Token.opensBlock_of_closesBlock closes, List.length_append, List.length_cons,
        List.length_nil] at opened ⊢
      simp only [if_true, Bool.false_eq_true, if_false]
      omega
  | @opening front closing opening run brace before opens balanced inductionHypothesis =>
      obtain ⟨first, second, rfl, closed, opened⟩ := inductionHypothesis
      refine ⟨first, second ++ brace :: run, by simp, closed, ?_⟩
      have even := (balanced_iff.mp balanced).2
      simp only [List.countP_append, List.countP_cons, opens,
        Token.closesBlock_of_opensBlock opens, List.length_append, List.length_cons,
        List.length_nil]
      simp only [if_true, Bool.false_eq_true, if_false]
      omega

/-- Nothing that is balanced can be kept of the run with fewer tokens taken away. -/
theorem length_le (leaves : Leaves tokens closing opening) {kept : List Token}
    (sublist : kept.Sublist tokens) (balanced : Balanced kept) :
    kept.length + (closing.length + opening.length) ≤ tokens.length := by
  obtain ⟨first, second, rfl, closed, opened⟩ := leaves.exists_excess
  obtain ⟨before, behind, rfl, inFirst, inSecond⟩ := List.sublist_append_iff.mp sublist
  obtain ⟨enough, even⟩ := balanced_iff.mp balanced
  have front := enough before (List.prefix_append before behind)
  have missing := countP_add_length_le inFirst (·.closesBlock)
  have missing' := countP_add_length_le inSecond (·.opensBlock)
  have opens := inFirst.countP_le (p := fun t => t.opensBlock)
  have closes := inSecond.countP_le (p := fun t => t.closesBlock)
  simp only [List.countP_append, List.length_append] at even ⊢
  omega

/-- As many braces have to be taken away as are left. -/
theorem isLeast (leaves : Leaves tokens closing opening) :
    IsLeast { count | BalancesWithout tokens count } (closing.length + opening.length) := by
  refine ⟨leaves.exists_pruned, ?_⟩
  rintro count ⟨kept, pruned, balanced, size⟩
  have room := leaves.length_le pruned.sublist balanced
  omega

/-- Nothing is left of a balanced run only. -/
theorem balanced_iff_nil (leaves : Leaves tokens closing opening) :
    Balanced tokens ↔ closing = [] ∧ opening = [] := by
  constructor
  · intro balanced
    have room := leaves.length_le (List.Sublist.refl tokens) balanced
    exact ⟨List.length_eq_zero_iff.mp (by omega), List.length_eq_zero_iff.mp (by omega)⟩
  · rintro ⟨rfl, rfl⟩
    obtain ⟨kept, pruned, balanced, size⟩ := leaves.exists_pruned
    obtain rfl := pruned.sublist.eq_of_length size
    exact balanced

end Leaves

/-! ## Reports -/

/-- The braces without a partner are reported, those that close nothing first. -/
theorem braceErrors_eq (tokens : List Token) :
    braceErrors tokens =
      (loneBraces Token.closesBlock tokens).map (·.complain "Unmatched closing brace") ++
        (loneBraces Token.opensBlock tokens).map (·.complain "Unclosed brace") := by
  obtain ⟨closing, opening⟩ := (leaves_unmatchedBraces tokens).loneBraces_eq
  rw [closing, opening]
  rfl

theorem loneBraces_sublist (kind : Token → Bool) (tokens : List Token) :
    (loneBraces kind tokens).Sublist tokens := by
  have listed := (List.filter_sublist (p := fun brace : Token × Nat =>
    kind brace.1 && !decide (HasPartner tokens brace.2)) (l := tokens.zipIdx)).map Prod.fst
  rwa [List.zipIdx_map_fst] at listed

theorem Diagnostic.placeLe_iff {d e : Diagnostic} :
    d.placeLe e = true ↔ d.line < e.line ∨ d.line = e.line ∧ d.column ≤ e.column := by
  simp [placeLe]

theorem Diagnostic.placeLe_trans (c d e : Diagnostic) (first : c.placeLe d = true)
    (second : d.placeLe e = true) : c.placeLe e = true := by
  rw [placeLe_iff] at *
  omega

theorem Diagnostic.placeLe_total (d e : Diagnostic) : (d.placeLe e || e.placeLe d) = true := by
  rw [Bool.or_eq_true, placeLe_iff, placeLe_iff]
  omega

/-- A text that starts in none of the ways is no message of the complaints. -/
theorem Diagnostic.IsComplaint.message_ne {starts : List String} {d : Diagnostic}
    (complaint : d.IsComplaint starts) {message : String}
    (apart : ∀ start ∈ starts, ¬start.toList <+: message.toList) : d.message ≠ message := by
  rintro rfl
  obtain ⟨start, listed, isStart⟩ := complaint.starts
  exact apart start listed isStart

/-- Just the complaints with a message are those with the message. -/
theorem filter_map_complain (message : String) (tokens : List Token) :
    ((tokens.map (·.complain message)).filter fun d => d.message = message) =
      tokens.map (·.complain message) :=
  List.filter_eq_self.mpr (List.forall_mem_map.mpr fun _ _ => decide_eq_true rfl)

theorem filter_map_complain_of_ne {message other : String} (unlike : message ≠ other)
    (tokens : List Token) :
    ((tokens.map (·.complain message)).filter fun d => d.message = other) = [] :=
  List.filter_eq_nil_iff.mpr (List.forall_mem_map.mpr fun _ _ same =>
    unlike (of_decide_eq_true same))

/-- What the outline says about other things does not start like a message about braces. -/
theorem message_ne_of_mem {tokens : List Token} {d : Diagnostic}
    (found : d ∈ declarationErrors 0 0 tokens ∨ d ∈ stateTypeErrors none tokens) :
    d.message ≠ "Unmatched closing brace" ∧ d.message ≠ "Unclosed brace" := by
  rcases found with declared | typed
  · have complaint := isComplaint_of_mem_declarationErrors _ _ _ d declared
    exact ⟨complaint.message_ne (by decide), complaint.message_ne (by decide)⟩
  · have complaint := isComplaint_of_mem_stateTypeErrors _ _ d typed
    exact ⟨complaint.message_ne (by decide), complaint.message_ne (by decide)⟩

section Reports

variable {tells : Diagnostic → Bool}
  (only : ∀ d, tells d = true →
    d.message = "Unmatched closing brace" ∨ d.message = "Unclosed brace")
include only

/-- Messages about braces come from the check of braces alone. -/
theorem filter_reports (tokens : List Token) :
    (declarationErrors 0 0 tokens ++ braceErrors tokens ++ stateTypeErrors none tokens).filter
      tells = (braceErrors tokens).filter tells := by
  have silent : ∀ {d : Diagnostic},
      d ∈ declarationErrors 0 0 tokens ∨ d ∈ stateTypeErrors none tokens → ¬tells d = true := by
    intro d found told
    obtain ⟨unmatched, unclosed⟩ := message_ne_of_mem found
    exact (only d told).elim unmatched unclosed
  have declared : (declarationErrors 0 0 tokens).filter tells = [] :=
    List.filter_eq_nil_iff.mpr fun d found => silent (Or.inl found)
  have typed : (stateTypeErrors none tokens).filter tells = [] :=
    List.filter_eq_nil_iff.mpr fun d found => silent (Or.inr found)
  rw [List.filter_append, List.filter_append, declared, typed, List.nil_append, List.append_nil]

/-- Where braces of one kind are reported, they are reported in their order. -/
theorem filter_outlineErrors {source : String} {kind : Token → Bool} {message : String}
    (told : (braceErrors (tokenize source)).filter tells =
      (loneBraces kind (tokenize source)).map (·.complain message)) :
    (outlineErrors source).filter tells =
      (loneBraces kind (tokenize source)).map (·.complain message) := by
  have reported := (filter_reports only (tokenize source)).trans told
  have ordered : ((loneBraces kind (tokenize source)).map (·.complain message)).Pairwise
      fun d e => d.placeLe e = true := by
    refine List.pairwise_map.mpr ?_
    refine ((scan_tokensFrom Position.start source.toList).placed.sublist
      (loneBraces_sublist kind _)).imp ?_
    intro a b before
    refine Diagnostic.placeLe_iff.mpr (before.imp_right fun sameLine => ?_)
    exact ⟨sameLine.1, Nat.le_of_lt sameLine.2⟩
  rw [← reported] at ordered ⊢
  exact filter_mergeSort_of_ordered Diagnostic.placeLe_trans Diagnostic.placeLe_total ordered

end Reports

/-- Every brace without a partner is reported once. -/
theorem countP_outlineErrors (source : String) :
    ((outlineErrors source).countP fun d =>
      d.message = "Unmatched closing brace" ∨ d.message = "Unclosed brace") =
        (loneBraces Token.closesBlock (tokenize source)).length +
          (loneBraces Token.opensBlock (tokenize source)).length := by
  rw [outlineErrors, tokenErrors, (List.mergeSort_perm _ _).countP_eq,
    List.countP_eq_length_filter, filter_reports fun d told => of_decide_eq_true told,
    braceErrors_eq, List.filter_eq_self.mpr, List.length_append, List.length_map, List.length_map]
  refine List.forall_mem_append.mpr ⟨?_, ?_⟩ <;> refine List.forall_mem_map.mpr fun t _ => ?_
  · exact decide_eq_true (Or.inl rfl)
  · exact decide_eq_true (Or.inr rfl)

/-- **Brace diagnostics are exact.**  Among the diagnostics about a source, which come by line and
column, those that complain about a closing or an opening brace tell of the braces of that kind
that have no partner: of each at its place, and of nothing else.  No brace has two partners, and no
two tokens stand at one place.  There is no such complaint if and only if the tokens are balanced,
and there are as many as braces that have to be taken away at least to balance them. -/
theorem outlineErrors_braces_exact (source : String) :
    let tokens := tokenize source
    let diagnostics := outlineErrors source
    (diagnostics.filter fun d => d.message = "Unmatched closing brace") =
      (loneBraces Token.closesBlock tokens).map (·.complain "Unmatched closing brace") ∧
    (diagnostics.filter fun d => d.message = "Unclosed brace") =
      (loneBraces Token.opensBlock tokens).map (·.complain "Unclosed brace") ∧
    (∀ first second other, ArePartners tokens first second →
      (ArePartners tokens first other → second = other) ∧
        (ArePartners tokens other second → first = other)) ∧
    (tokens.Pairwise fun a b => a.line < b.line ∨ a.line = b.line ∧ a.column < b.column) ∧
    ((∀ d ∈ diagnostics, d.message ≠ "Unmatched closing brace" ∧ d.message ≠ "Unclosed brace") ↔
      Balanced tokens) ∧
    IsLeast { count | BalancesWithout tokens count }
      (diagnostics.countP fun d =>
        d.message = "Unmatched closing brace" ∨ d.message = "Unclosed brace") ∧
    diagnostics.Pairwise (fun d e => d.line < e.line ∨ d.line = e.line ∧ d.column ≤ e.column) := by
  intro tokens diagnostics
  have leaves := leaves_unmatchedBraces tokens
  obtain ⟨closing, opening⟩ := leaves.loneBraces_eq
  rw [← closing, ← opening] at leaves
  have counted : (diagnostics.countP fun d =>
      d.message = "Unmatched closing brace" ∨ d.message = "Unclosed brace") =
        (loneBraces Token.closesBlock tokens).length +
          (loneBraces Token.opensBlock tokens).length := countP_outlineErrors source
  refine ⟨?_, ?_, ?_, (scan_tokensFrom Position.start source.toList).placed, ?_, ?_, ?_⟩
  · refine filter_outlineErrors (fun d told => Or.inl (of_decide_eq_true told)) ?_
    rw [braceErrors_eq, List.filter_append, filter_map_complain,
      filter_map_complain_of_ne (by decide), List.append_nil]
  · refine filter_outlineErrors (fun d told => Or.inr (of_decide_eq_true told)) ?_
    rw [braceErrors_eq, List.filter_append, filter_map_complain,
      filter_map_complain_of_ne (by decide), List.nil_append]
  · intro first second other partners
    exact ⟨partners.closing_unique, partners.opening_unique⟩
  · have none : (∀ d ∈ diagnostics,
        d.message ≠ "Unmatched closing brace" ∧ d.message ≠ "Unclosed brace") ↔
          (diagnostics.countP fun d =>
            d.message = "Unmatched closing brace" ∨ d.message = "Unclosed brace") = 0 := by
      simp only [List.countP_eq_zero, decide_eq_true_eq, not_or, ne_eq]
    rw [none, counted, Nat.add_eq_zero_iff, List.length_eq_zero_iff, List.length_eq_zero_iff,
      leaves.balanced_iff_nil]
  · rw [counted]
    exact leaves.isLeast
  · refine (List.pairwise_mergeSort Diagnostic.placeLe_trans Diagnostic.placeLe_total _).imp ?_
    intro d e before
    exact Diagnostic.placeLe_iff.mp before

end Vivarium.Source
