import Mathlib.Data.List.Basic
import Vivarium.Proofs.Source.Matching
import Vivarium.Proofs.Source.Tokenization

/-!
# What a sound outline says

The outline and the reader count braces and look for declarations each with a loop of its
own.  Where the outline has nothing to report, its depth is that of the nesting: no brace
closes a block that is not open.  Then there is one `organism` keyword, it stands outside
of all blocks with a name behind it, and it is the one from which the reader starts.

The braces of the tokens are those of the source, so that the text of a block is what
stands between them.

Main definitions:

* `Declaration`: the only organism declaration of a run of tokens.

Main statements:

* `exists_declaration`: a sound outline has one, and the reader starts from it;
* `isIdentifier_of_mem_tokenize`: identifiers are legal names;
* `exists_text_of_braces`: the text between two braces.
-/

namespace Vivarium.Source

open Vivarium.Text (trim)

/-! ## The declaration -/

/-- The only organism declaration of a run of tokens: outside of all blocks, with a name
behind the keyword, on the same line. -/
structure Declaration (tokens : List Token) where
  front : List Token
  keyword : Token
  name : Token
  rest : List Token
  divided : tokens = front ++ keyword :: name :: rest
  outside : Balanced front
  declares : keyword.isKeyword "organism" = true
  only : ∀ t ∈ front ++ name :: rest, t.isKeyword "organism" = false
  named : name.kind = .identifier
  besides : name.line = keyword.line

/-- An organism keyword without complaint has a name behind it. -/
theorem named_of_organismNameErrors {t : Token} {rest : List Token}
    (flawless : organismNameErrors t rest = []) :
    ∃ name others, rest = name :: others ∧ name.kind = .identifier ∧ name.line = t.line := by
  unfold organismNameErrors at flawless
  split at flawless
  · rename_i name next
    obtain ⟨first, besides⟩ := Option.filter_eq_some_iff.mp next
    obtain ⟨others, same⟩ := List.head?_eq_some_iff.mp first
    split at flawless
    · rename_i kind
      exact ⟨name, others, same, kind, of_decide_eq_true besides⟩
    · cases flawless
  · cases flawless

/-- The number of open blocks behind a token, as the outline and the reader count them:
where no block is open, a closing brace leaves the depth at zero. -/
def Token.depthBehind (depth : Nat) (t : Token) : Nat :=
  if t.opensBlock then depth + 1 else if t.closesBlock then depth - 1 else depth

section Steps

variable {depth declared : Nat} {t : Token} {rest : List Token}

/-- Where the nesting is known, it is what the outline and the reader count. -/
theorem nesting_of_depthBehind {reached : Nat} (counted : nesting depth (t :: rest) = some reached)
    (others : List Token) : nesting depth (t :: others) = nesting (t.depthBehind depth) others := by
  unfold Token.depthBehind
  rcases t.brace_cases with opens | closes | plain
  · rw [nesting_of_opens _ _ opens, if_pos opens]
  · cases depth with
    | zero =>
        rw [nesting_zero_of_closes _ closes] at counted
        cases counted
    | succ outer =>
        rw [nesting_of_closes _ _ closes, Token.opensBlock_of_closesBlock closes, if_pos closes]
        rfl
  · rw [nesting_of_isPlain _ _ plain, plain.1, plain.2]
    rfl

/-- An organism keyword without complaint is the first one, stands outside of all blocks
and is named. -/
theorem flawless_of_organism (organism : t.isKeyword "organism" = true)
    (flawless : declarationErrors depth declared (t :: rest) = []) :
    depth = 0 ∧ declared = 0 ∧ organismNameErrors t rest = [] ∧
      declarationErrors 0 1 rest = [] := by
  have plain := Token.isPlain_of_isKeyword organism
  rw [declarationErrors, plain.1, plain.2, if_neg Bool.false_ne_true, if_neg Bool.false_ne_true,
    if_pos organism] at flawless
  split at flawless
  · cases flawless
  · rename_i outside
    obtain rfl : depth = 0 := Nat.eq_zero_of_not_pos outside
    obtain ⟨complaints, others⟩ := List.append_eq_nil_iff.mp flawless
    obtain ⟨repeated, named⟩ := List.append_eq_nil_iff.mp complaints
    have first : declared = 0 := by
      split at repeated
      · cases repeated
      · rename_i notBefore
        exact Nat.eq_zero_of_not_pos notBefore
    rw [first] at others
    exact ⟨rfl, first, named, others⟩

/-- Behind any other token the declarations are without complaint, too. -/
theorem flawless_of_other (other : t.isKeyword "organism" = false)
    (flawless : declarationErrors depth declared (t :: rest) = []) :
    declarationErrors (t.depthBehind depth) declared rest = [] := by
  rw [declarationErrors, other, if_neg Bool.false_ne_true] at flawless
  unfold Token.depthBehind
  split
  · rename_i opens
    rwa [if_pos opens] at flawless
  · rename_i opensNot
    rw [if_neg opensNot] at flawless
    split
    · rename_i closes
      rwa [if_pos closes] at flawless
    · rename_i closesNot
      rw [if_neg closesNot] at flawless
      split at flawless
      · exact (List.append_eq_nil_iff.mp flawless).2
      · exact flawless

/-- The reader looks for the organism behind any other token. -/
theorem organismTokens_of_other (other : t.isKeyword "organism" = false) :
    organismTokens depth (t :: rest) = organismTokens (t.depthBehind depth) rest := by
  rw [organismTokens, other, Bool.and_false, if_neg Bool.false_ne_true]
  unfold Token.depthBehind
  split
  · rfl
  · split <;> rfl

end Steps

/-- Behind one declaration there is no other without a complaint, at whatever depth. -/
theorem no_organism_of_declarationErrors {depth : Nat} {tokens : List Token}
    (flawless : declarationErrors depth 1 tokens = []) :
    ∀ t ∈ tokens, t.isKeyword "organism" = false := by
  induction tokens generalizing depth with
  | nil => exact List.forall_mem_nil _
  | cons t rest inductionHypothesis =>
      cases organism : t.isKeyword "organism" with
      | true =>
          obtain ⟨-, first, -⟩ := flawless_of_organism organism flawless
          cases first
      | false =>
          have others := inductionHypothesis (flawless_of_other organism flawless)
          exact List.forall_mem_cons.mpr ⟨organism, others⟩

/-- Where the braces balance and the declarations are without complaint, an organism is
declared outside of all blocks, and there the reader starts. -/
theorem exists_organism_of_declarationErrors {depth reached : Nat} {tokens : List Token}
    (counted : nesting depth tokens = some reached)
    (flawless : declarationErrors depth 0 tokens = []) :
    ∃ front keyword rest, tokens = front ++ keyword :: rest ∧ nesting depth front = some 0 ∧
      keyword.isKeyword "organism" = true ∧ (∀ t ∈ front, t.isKeyword "organism" = false) ∧
      organismNameErrors keyword rest = [] ∧ declarationErrors 0 1 rest = [] ∧
      organismTokens depth tokens = keyword :: rest := by
  induction tokens generalizing depth with
  | nil => cases flawless
  | cons t rest inductionHypothesis =>
      cases organism : t.isKeyword "organism" with
      | true =>
          obtain ⟨rfl, -, named, others⟩ := flawless_of_organism organism flawless
          refine ⟨[], t, rest, rfl, rfl, organism, List.forall_mem_nil _, named, others, ?_⟩
          have plain := Token.isPlain_of_isKeyword organism
          rw [organismTokens, plain.1, plain.2, organism]
          rfl
      | false =>
          have step := nesting_of_depthBehind counted
          obtain ⟨front, keyword, behind, divided, inFront, declares, before, others⟩ :=
            inductionHypothesis ((step rest).symm.trans counted)
              (flawless_of_other organism flawless)
          rw [organismTokens_of_other organism]
          exact ⟨t :: front, keyword, behind, congrArg (t :: ·) divided,
            (step front).trans inFront, declares, List.forall_mem_cons.mpr ⟨organism, before⟩,
            others⟩

/-- **A sound outline has one declaration**, and the reader starts from it. -/
theorem exists_declaration {tokens : List Token} (sound : tokenErrors tokens = []) :
    ∃ d : Declaration tokens, organismTokens 0 tokens = d.keyword :: d.name :: d.rest := by
  obtain ⟨declarations, braces, -⟩ := tokenErrors_eq_nil_iff.mp sound
  obtain ⟨front, keyword, rest, divided, outside, declares, before, named, others, starts⟩ :=
    exists_organism_of_declarationErrors (balanced_of_braceErrors braces) declarations
  obtain ⟨name, rest, rfl, kind, besides⟩ := named_of_organismNameErrors named
  have behind := no_organism_of_declarationErrors others
  exact ⟨⟨front, keyword, name, rest, divided, outside, declares,
    List.forall_mem_append.mpr ⟨before, behind⟩, kind, besides⟩, starts⟩

namespace Declaration

variable {tokens : List Token} (d : Declaration tokens)

theorem name_mem : d.name ∈ tokens := by
  have behind : d.name ∈ d.front ++ d.keyword :: d.name :: d.rest := by
    simp only [List.mem_append, List.mem_cons, true_or, or_true]
  rwa [← d.divided] at behind

theorem isPlain_keyword : d.keyword.IsPlain := Token.isPlain_of_isKeyword d.declares

theorem isPlain_name : d.name.IsPlain := Token.isPlain_of_kind (by rw [d.named]; decide)

/-- Behind the keyword the tokens are balanced if they are so on the whole. -/
theorem balanced (balanced : Balanced tokens) : Balanced (d.name :: d.rest) := by
  rw [d.divided, Balanced, nesting_append_of_balanced d.outside,
    nesting_of_isPlain _ _ d.isPlain_keyword] at balanced
  exact balanced

end Declaration

/-! ## Tokens and characters -/

theorem isPlaced_of_mem_tokenize {source : String} {t : Token} (member : t ∈ tokenize source) :
    t.IsPlaced source.toList := by
  have scan := scan_tokensFrom Position.start source.toList
  obtain ⟨before, first, rest, divided, -, rfl⟩ := scan.lexeme_of_mem member
  rw [divided]
  exact Lexeme.isPlaced_at before

theorem isLongest_of_mem_tokenize {source : String} {t : Token} (member : t ∈ tokenize source) :
    t.IsLongest source.toList := by
  have scan := scan_tokensFrom Position.start source.toList
  obtain ⟨before, first, rest, divided, starts, rfl⟩ := scan.lexeme_of_mem member
  rw [divided]
  exact Lexeme.isLongest_at before starts

/-- Identifiers are legal names. -/
theorem isIdentifier_of_mem_tokenize {source : String} {t : Token}
    (member : t ∈ tokenize source) (kind : t.kind = .identifier) :
    isIdentifier t.text = true := by
  have longest := isLongest_of_mem_tokenize member
  have noLiteral : t.kind ≠ .string := by
    rw [kind]
    decide
  have fits := longest.fits noLiteral
  rw [← longest.verbatim noLiteral, kind] at fits
  simpa only [Token.Kind.Matches, String.ofList_toList] using fits

/-- Every token starts behind the ones in front of it. -/
theorem offsets_tokenize (source : String) :
    (tokenize source).Pairwise fun a b => a.offset < b.offset := by
  refine (scan_tokensFrom Position.start source.toList).ascending.imp_of_mem ?_
  intro a b member _ behind
  have nonempty := (isPlaced_of_mem_tokenize member).nonempty
  exact Nat.lt_of_lt_of_le (Nat.lt_add_of_pos_right nonempty) behind

/-- A token stands at one place only. -/
theorem place_unique {source : String} {t : Token} {front front' behind behind' : List Token}
    (divided : tokenize source = front ++ t :: behind)
    (divided' : tokenize source = front' ++ t :: behind') : front = front' ∧ behind = behind' := by
  have ordered := offsets_tokenize source
  rw [divided] at ordered
  obtain ⟨-, ordered, before⟩ := List.pairwise_append.mp ordered
  have notFront : t ∉ front :=
    fun member => Nat.lt_irrefl _ (before t member t List.mem_cons_self)
  have notBehind : t ∉ behind :=
    fun member => Nat.lt_irrefl _ ((List.pairwise_cons.mp ordered).1 t member)
  have parts := (List.append_cons_inj_of_notMem notFront notBehind).mp (divided.symm.trans divided')
  exact ⟨parts.1, parts.2.2⟩

/-- A mark covers one character, which is its text. -/
theorem exists_of_isPunctuation {source : String} {t : Token} (member : t ∈ tokenize source)
    {c : Char} (mark : t.isPunctuation (String.ofList [c]) = true) :
    t.length = 1 ∧ ∃ before after, source.toList = before ++ c :: after ∧
      before.length = t.offset := by
  obtain ⟨kind, text⟩ := Bool.and_eq_true_iff.mp mark
  have kind := beq_iff_eq.mp kind
  have text := congrArg String.toList (beq_iff_eq.mp text)
  have scan := scan_tokensFrom Position.start source.toList
  obtain ⟨before, first, rest, divided, starts, rfl⟩ := scan.lexeme_of_mem member
  have longest := Lexeme.isLongest_at before starts
  have verbatim := longest.verbatim (by rw [kind]; decide)
  rw [text, String.toList_ofList, Lexeme.span_at] at verbatim
  obtain ⟨rfl, noMore⟩ := List.cons.inj verbatim
  refine ⟨?_, before, rest, divided, ((lexeme c rest).offset_at before).symm⟩
  have covered := lexeme_more_le c rest
  have size := congrArg List.length noMore
  rw [List.length_nil, List.length_take] at size
  show (lexeme c rest).more + 1 = 1
  omega

/-- The slice behind a character is what stands there, trimmed. -/
theorem slice_behind (before text after : List Char) (c : Char) :
    slice (before ++ c :: (text ++ after)) (before.length + 1) (before.length + (1 + text.length)) =
      String.ofList (trim text) := by
  have front : before ++ c :: (text ++ after) = (before ++ [c]) ++ (text ++ after) := by
    rw [List.append_assoc, List.singleton_append]
  have size : before.length + (1 + text.length) - (before.length + 1) = text.length := by omega
  rw [slice, front, size, List.drop_left' (by rw [List.length_append, List.length_singleton]),
    List.take_left]

/-- **The text of a block** stands between its opening brace and the brace that closes
it, which comes later. -/
theorem exists_text_of_braces {source : String} {front inside behind : List Token}
    {opening closing : Token}
    (divided : tokenize source = front ++ opening :: (inside ++ closing :: behind))
    (opens : opening.opensBlock = true) (closes : closing.closesBlock = true) :
    ∃ before text after, source.toList = before ++ '\x7b' :: (text ++ '\x7d' :: after) ∧
      opening.stop = before.length + 1 ∧ closing.offset = before.length + (1 + text.length) ∧
      slice source.toList opening.stop closing.offset = String.ofList (trim text) := by
  have ascending := (scan_tokensFrom Position.start source.toList).ascending
  have inTokens : opening ∈ tokenize source ∧ closing ∈ tokenize source := by
    rw [divided]
    simp only [List.mem_append, List.mem_cons, true_or, or_true, and_self]
  have later : opening.stop ≤ closing.offset := by
    rw [show tokensFrom Position.start source.toList = _ from divided] at ascending
    have behindOpening := (List.pairwise_append.mp ascending).2.1
    exact (List.pairwise_cons.mp behindOpening).1 closing
      (List.mem_append_right _ List.mem_cons_self)
  obtain ⟨one, before, rest, atOpening, opensAt⟩ :=
    exists_of_isPunctuation (c := '\x7b') inTokens.1 opens
  obtain ⟨-, whole, after, atClosing, closesAt⟩ :=
    exists_of_isPunctuation (c := '\x7d') inTokens.2 closes
  rw [Token.stop, one, ← opensAt, ← closesAt] at later
  -- the closing brace stands behind the opening one, so that it divides what follows that
  rcases List.append_eq_append_iff.mp (atOpening.symm.trans atClosing) with
    ⟨text, rfl, same⟩ | ⟨text, rfl, -⟩
  · cases text with
    | nil =>
        rw [List.append_nil] at later
        omega
    | cons first text =>
        rw [List.cons_append] at same
        obtain ⟨rfl, rfl⟩ := List.cons.inj same
        rw [List.length_append, List.length_cons, Nat.add_comm text.length] at closesAt
        have stopsAt : opening.stop = before.length + 1 := by rw [Token.stop, one, opensAt]
        refine ⟨before, text, after, atOpening, stopsAt, closesAt.symm, ?_⟩
        rw [stopsAt, ← closesAt, atOpening]
        exact slice_behind before text ('\x7d' :: after) '\x7b'
  · rw [List.length_append] at later
    omega

end Vivarium.Source
