import Vivarium.Proofs.Source.Sections

/-!
# Relocated tokens

The outline and the reader of blueprints find their way by the kinds, the texts and the
lines of tokens.  Offsets are only handed on, so that tokens at other offsets have the
same outline, and the same blocks, sections and statements at other offsets.

Main definitions:

* `Token.relocated`: the same token at another offset;
* `Block.relocated`, `Section.relocated`: the same block and section of such tokens.

Main statements:

* `tokenErrors_relocated`: the outline does not look at offsets;
* `bodySections_relocated`: the sections of relocated tokens are the relocated sections.
-/

namespace Vivarium.Source

/-- The same token at the offset that is found for its own. -/
def Token.relocated (find : Nat → Nat) (t : Token) : Token := { t with offset := find t.offset }

/-- The same block at other offsets. -/
def Block.relocated (find : Nat → Nat) (b : Block) : Block :=
  ⟨find b.start, b.inside.map (Token.relocated find), find b.stop⟩

/-- The same section at other offsets. -/
def Section.relocated (find : Nat → Nat) (s : Section) : Section :=
  ⟨s.keyword.relocated find, s.header.map (Token.relocated find), s.block.relocated find⟩

section Relocation

variable (find : Nat → Nat)

@[simp]
theorem Token.opensBlock_relocated (t : Token) :
    (t.relocated find).opensBlock = t.opensBlock :=
  rfl

@[simp]
theorem Token.closesBlock_relocated (t : Token) :
    (t.relocated find).closesBlock = t.closesBlock :=
  rfl

/-- A test of the first token that does not look at the offset. -/
theorem filter_head?_relocated {p q : Token → Bool} (blind : ∀ t, q (t.relocated find) = p t)
    (tokens : List Token) :
    (tokens.map (Token.relocated find)).head?.filter q =
      (tokens.head?.filter p).map (Token.relocated find) := by
  cases tokens with
  | nil => rfl
  | cons t rest =>
      rw [List.map_cons, List.head?_cons, List.head?_cons, Option.filter_some, Option.filter_some,
        blind]
      split <;> rfl

/-! ## The outline -/

theorem Token.nextOnLine_relocated (t : Token) (rest : List Token) :
    (t.relocated find).nextOnLine (rest.map (Token.relocated find)) =
      (t.nextOnLine rest).map (Token.relocated find) :=
  filter_head?_relocated find (fun _ => rfl) rest

theorem organismNameErrors_relocated (t : Token) (rest : List Token) :
    organismNameErrors (t.relocated find) (rest.map (Token.relocated find)) =
      organismNameErrors t rest := by
  rw [organismNameErrors, organismNameErrors, Token.nextOnLine_relocated]
  cases t.nextOnLine rest <;> rfl

theorem sectionErrors_relocated (depth : Nat) (t : Token) (rest : List Token) :
    sectionErrors depth (t.relocated find) (rest.map (Token.relocated find)) =
      sectionErrors depth t rest := by
  have named : ((t.relocated find).nextOnLine (rest.map (Token.relocated find))).any
        (fun name => name.kind = .identifier && isIdentifier name.text) =
      (t.nextOnLine rest).any fun name => name.kind = .identifier && isIdentifier name.text := by
    rw [Token.nextOnLine_relocated]
    cases t.nextOnLine rest <;> rfl
  rw [sectionErrors, sectionErrors, named]
  rfl

theorem declarationErrors_relocated (depth declared : Nat) (tokens : List Token) :
    declarationErrors depth declared (tokens.map (Token.relocated find)) =
      declarationErrors depth declared tokens := by
  induction tokens generalizing depth declared with
  | nil => rfl
  | cons t rest inductionHypothesis =>
      rw [List.map_cons, declarationErrors, declarationErrors, organismNameErrors_relocated,
        sectionErrors_relocated]
      simp only [inductionHypothesis]
      rfl

theorem unmatchedBraces_relocated (pending tokens : List Token) :
    unmatchedBraces (pending.map (Token.relocated find)) (tokens.map (Token.relocated find)) =
      ((unmatchedBraces pending tokens).1.map (Token.relocated find),
        (unmatchedBraces pending tokens).2.map (Token.relocated find)) := by
  induction tokens generalizing pending with
  | nil => simp [unmatchedBraces]
  | cons t rest inductionHypothesis =>
      rw [List.map_cons]
      unfold unmatchedBraces
      rw [Token.opensBlock_relocated, Token.closesBlock_relocated]
      split
      · exact inductionHypothesis (t :: pending)
      · split
        · cases pending with
          | nil =>
              have outer := inductionHypothesis []
              rw [List.map_nil] at outer
              simp only [List.map_nil, outer, List.map_cons]
          | cons _ outer => exact inductionHypothesis outer
        · exact inductionHypothesis pending

theorem braceErrors_relocated (tokens : List Token) :
    braceErrors (tokens.map (Token.relocated find)) = braceErrors tokens := by
  have braces := unmatchedBraces_relocated find [] tokens
  rw [List.map_nil] at braces
  rw [braceErrors, braceErrors, braces]
  simp only [List.map_map]
  rfl

theorem stateTypeErrors_relocated (previous : Option Token) (tokens : List Token) :
    stateTypeErrors (previous.map (Token.relocated find)) (tokens.map (Token.relocated find)) =
      stateTypeErrors previous tokens := by
  induction tokens generalizing previous with
  | nil => rfl
  | cons name rest inductionHypothesis =>
      have onward := inductionHypothesis (some name)
      have starts : startsStatement (previous.map (Token.relocated find)) (name.relocated find) =
          startsStatement previous name := by
        cases previous <;> rfl
      rcases rest with _ | ⟨colon, _ | ⟨ty, _ | ⟨assign, others⟩⟩⟩
      · rfl
      · exact congrArg ([] ++ ·) onward
      · exact congrArg ([] ++ ·) onward
      · have here : stateTypeError (name.relocated find) (colon.relocated find)
            (ty.relocated find) (assign.relocated find) = stateTypeError name colon ty assign := rfl
        simp only [List.map_cons] at onward ⊢
        rw [stateTypeErrors, starts, here]
        exact congrArg (_ ++ ·) onward

/-- The outline does not look at offsets. -/
theorem tokenErrors_relocated (tokens : List Token) :
    tokenErrors (tokens.map (Token.relocated find)) = tokenErrors tokens := by
  have types := stateTypeErrors_relocated find none tokens
  rw [Option.map_none] at types
  rw [tokenErrors, tokenErrors, declarationErrors_relocated, braceErrors_relocated, types]

/-! ## Blocks -/

theorem splitClose_relocated (depth : Nat) (tokens : List Token) :
    splitClose depth (tokens.map (Token.relocated find)) =
      ((splitClose depth tokens).1.map (Token.relocated find),
        (splitClose depth tokens).2.map (Token.relocated find)) := by
  induction tokens generalizing depth with
  | nil => rfl
  | cons t rest inductionHypothesis =>
      rw [List.map_cons]
      unfold splitClose
      rw [Token.opensBlock_relocated, Token.closesBlock_relocated]
      split
      · cases depth with
        | zero => rfl
        | succ outer => simp only [inductionHypothesis, List.map_cons]
      · simp only [inductionHypothesis, List.map_cons]

theorem splitBlock_relocated (limit : Nat) {brace : Token}
    (stop : (brace.relocated find).stop = find brace.stop) (after : List Token) :
    splitBlock (find limit) (brace.relocated find) (after.map (Token.relocated find)) =
      ((splitBlock limit brace after).1.relocated find,
        (splitBlock limit brace after).2.map (Token.relocated find)) := by
  rw [splitBlock, splitBlock, splitClose_relocated, stop]
  rcases splitClose 0 after with ⟨inside, _ | ⟨close, rest⟩⟩ <;> rfl

theorem splitHeader?_relocated (tokens : List Token) :
    splitHeader? (tokens.map (Token.relocated find)) =
      (splitHeader? tokens).map fun (header, brace, after) =>
        (header.map (Token.relocated find), brace.relocated find,
          after.map (Token.relocated find)) := by
  induction tokens with
  | nil => rfl
  | cons t rest inductionHypothesis =>
      have ends : (t.relocated find).endsHeader = t.endsHeader := rfl
      rw [List.map_cons, splitHeader?, splitHeader?, Token.opensBlock_relocated, ends,
        inductionHypothesis]
      split
      · rfl
      · split
        · rfl
        · cases splitHeader? rest <;> rfl

/-! ## Sections -/

theorem sections_relocated {limit : Nat} {tokens : List Token}
    (stops : ∀ t ∈ tokens, (t.relocated find).stop = find t.stop) :
    sections (find limit) (tokens.map (Token.relocated find)) =
      (sections limit tokens).map (Section.relocated find) := by
  have starts (t : Token) : startsSection (t.relocated find) = startsSection t := rfl
  fun_induction sections limit tokens with
  | case1 => rw [List.map_nil, sections, List.map_nil]
  | case2 t rest opensHere _ inductionHypothesis =>
      have stopsLater (u : Token) (member : u ∈ (splitBlock limit t rest).2) :=
        stops u (List.mem_cons_of_mem t ((splitBlock_rest_isSuffix limit t rest).subset member))
      rw [List.map_cons, sections, if_pos (by rw [Token.opensBlock_relocated, opensHere]),
        splitBlock_relocated find limit (stops t List.mem_cons_self),
        inductionHypothesis stopsLater]
  | case3 t rest opensNot startsHere header brace after found _ _ inductionHypothesis =>
      obtain ⟨rfl, -⟩ := splitHeader?_eq_some found
      have stopBrace := stops brace (by simp)
      have stopsLater (u : Token) (member : u ∈ (splitBlock limit brace after).2) :=
        stops u (by simp [(splitBlock_rest_isSuffix limit brace after).subset member])
      have foundThere := splitHeader?_relocated find (header ++ brace :: after)
      rw [found] at foundThere
      rw [List.map_cons, sections, if_neg (by rwa [Token.opensBlock_relocated]),
        if_pos (by rw [starts, startsHere])]
      split
      · rename_i header' brace' after' found'
        cases found'.symm.trans foundThere
        simp only [splitBlock_relocated find limit stopBrace, inductionHypothesis stopsLater]
        rfl
      · rename_i nothing
        cases nothing.symm.trans foundThere
  | case4 t rest opensNot startsHere nothing inductionHypothesis =>
      have nothingThere := splitHeader?_relocated find rest
      rw [nothing] at nothingThere
      rw [List.map_cons, sections, if_neg (by rwa [Token.opensBlock_relocated]),
        if_pos (by rw [starts, startsHere])]
      split
      · rename_i found'
        cases found'.symm.trans nothingThere
      · exact inductionHypothesis fun u member => stops u (List.mem_cons_of_mem t member)
  | case5 t rest opensNot startsNot inductionHypothesis =>
      rw [List.map_cons, sections, if_neg (by rwa [Token.opensBlock_relocated]),
        if_neg (by rw [starts]; exact startsNot)]
      exact inductionHypothesis fun u member => stops u (List.mem_cons_of_mem t member)

/-- The sections of an organism at other offsets. -/
theorem bodySections_relocated {source other : List Char} {tokens : List Token}
    (length : other.length = find source.length)
    (stops : ∀ t ∈ tokens, (t.relocated find).stop = find t.stop) :
    bodySections other (tokens.map (Token.relocated find)) =
      (bodySections source tokens).map (Section.relocated find) := by
  rw [bodySections, bodySections, splitHeader?_relocated]
  cases found : splitHeader? tokens with
  | none => rfl
  | some parts =>
      obtain ⟨header, brace, after⟩ := parts
      obtain ⟨rfl, -⟩ := splitHeader?_eq_some found
      have stopsInside (t : Token) (member : t ∈ (splitBlock source.length brace after).1.inside) :=
        stops t (by simp [(splitBlock_inside_isPrefix source.length brace after).subset member])
      simp only [Option.map_some]
      rw [length, splitBlock_relocated find source.length (stops brace (by simp))]
      exact sections_relocated find stopsInside

theorem organismTokens_relocated (depth : Nat) (tokens : List Token) :
    organismTokens depth (tokens.map (Token.relocated find)) =
      (organismTokens depth tokens).map (Token.relocated find) := by
  induction tokens generalizing depth with
  | nil => rfl
  | cons t rest inductionHypothesis =>
      have keyword : (t.relocated find).isKeyword "organism" = t.isKeyword "organism" := rfl
      rw [List.map_cons, organismTokens, organismTokens, Token.opensBlock_relocated,
        Token.closesBlock_relocated, keyword]
      split
      · exact inductionHypothesis _
      · split
        · exact inductionHypothesis _
        · split
          · rfl
          · exact inductionHypothesis _

/-! ## Statements -/

theorem withoutBlocks_relocated (depth : Nat) (tokens : List Token) :
    withoutBlocks depth (tokens.map (Token.relocated find)) =
      (withoutBlocks depth tokens).map (Token.relocated find) := by
  induction tokens generalizing depth with
  | nil => rfl
  | cons t rest inductionHypothesis =>
      rw [List.map_cons]
      unfold withoutBlocks
      rw [Token.opensBlock_relocated, Token.closesBlock_relocated]
      split
      · exact inductionHypothesis _
      · cases depth with
        | zero => simp only [inductionHypothesis, List.map_cons]
        | succ outer => exact inductionHypothesis _

theorem closeStatement_relocated (current : List Token) (rest : List (List Token)) :
    closeStatement (current.map (Token.relocated find))
        (rest.map (List.map (Token.relocated find))) =
      (closeStatement current rest).map (List.map (Token.relocated find)) := by
  cases current <;> rfl

theorem statementsFrom_relocated (current tokens : List Token) :
    statementsFrom (current.map (Token.relocated find)) (tokens.map (Token.relocated find)) =
      (statementsFrom current tokens).map (List.map (Token.relocated find)) := by
  induction tokens generalizing current with
  | nil => exact closeStatement_relocated find current []
  | cons t rest inductionHypothesis =>
      have mark : (t.relocated find).isPunctuation ";" = t.isPunctuation ";" := rfl
      have line : ((current.map (Token.relocated find)).head?.any
          fun first => first.line ≠ (t.relocated find).line) =
            current.head?.any fun first => first.line ≠ t.line := by
        cases current <;> rfl
      have alone := inductionHypothesis [t]
      have joined := inductionHypothesis (current ++ [t])
      have fresh := inductionHypothesis []
      rw [List.map_append] at joined
      rw [List.map_cons, statementsFrom, statementsFrom, mark, line]
      split
      · rw [← closeStatement_relocated, ← fresh, List.map_nil]
      · split
        · rw [← closeStatement_relocated, ← alone]
          rfl
        · exact joined

theorem statements_relocated (tokens : List Token) :
    statements (tokens.map (Token.relocated find)) =
      (statements tokens).map (List.map (Token.relocated find)) := by
  rw [statements, statements, withoutBlocks_relocated]
  exact statementsFrom_relocated find [] _

end Relocation

end Vivarium.Source
