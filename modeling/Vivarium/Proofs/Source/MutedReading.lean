import Vivarium.Proofs.Source.Comment
import Vivarium.Proofs.Source.StateTypes

/-!
# Reading a muted text

The reader of blueprints takes texts from the source by their offsets.  A value stands on
one line and has no comment in it, so that it is the same in the muted text.  A block
holds its comments, and in the muted text it holds them empty.  The category of a gene,
although it is looked up in the text of its block, is given at the start of a line, where
no comment is open, and by characters that open none.

Main statements:

* `valueText_mute`, `text_relocated`: a value stays, a block is muted;
* `bodyCategory?_mute`: comments give no category;
* `gene_relocated`, `settings_relocated`: the declarations of a muted text.
-/

namespace Vivarium.Source

open Vivarium.Text (isBlank trim)

/-! ## Slices -/

theorem slice_mute (source : List Char) (start stop : Nat) :
    slice (Mode.mute .code source) (muteOffset source start) (muteOffset source stop) =
      String.ofList (trim ((Mode.after .code (source.take start)).mute
        ((source.drop start).take (stop - start)))) := by
  rw [slice, mute_slice]

/-- A slice inside a line behind which no comment is open stays as it is. -/
theorem slice_mute_line {source : List Char} {start stop : Nat}
    (oneLine : (source.take stop).count '\n' = (source.take start).count '\n')
    (closed : Mode.after .code (source.take stop) ≠ .comment) :
    slice (Mode.mute .code source) (muteOffset source start) (muteOffset source stop) =
      slice source start stop := by
  rw [slice_mute, slice]
  rcases Nat.le_total start stop with ordered | reversed
  · obtain ⟨length, rfl⟩ := Nat.exists_eq_add_of_le ordered
    rw [List.take_add, List.count_append] at oneLine
    rw [List.take_add, Mode.after_append] at closed
    rw [Nat.add_sub_cancel_left, Mode.mute_eq_self _ closed]
    refine List.count_eq_zero.mp ?_
    omega
  · rw [Nat.sub_eq_zero_of_le reversed, List.take_zero, Mode.mute_nil]

/-- A block that starts in code holds its comments empty. -/
theorem Block.text_relocated {source : List Char} {b : Block}
    (inCode : Mode.after .code (source.take b.start) = .code) :
    (b.relocated (muteOffset source)).text (Mode.mute .code source) =
      emptyComments (b.text source) := by
  have there := slice_mute source b.start b.stop
  rw [inCode, trim_mute] at there
  have text : (b.text source).toList = trim ((source.drop b.start).take (b.stop - b.start)) :=
    String.toList_ofList
  rw [emptyComments_eq, text]
  exact there

/-! ## Values -/

/-- A settled token stops in the muted text where its end is found. -/
theorem Token.Settled.stop_relocated {source : List Char} {t : Token} (settled : t.Settled source) :
    (t.relocated (muteOffset source)).stop = muteOffset source t.stop := settled.length.symm

/-- The text of a value on one line stays as it is. -/
theorem valueText_mute {source : List Char} {value : List Token}
    (settled : ∀ t ∈ value, t.Settled source) {line : Nat} (onLine : ∀ t ∈ value, t.line = line) :
    valueText (Mode.mute .code source) (value.map (Token.relocated (muteOffset source))) =
      valueText source value := by
  rcases value with _ | ⟨first, _ | ⟨second, rest⟩⟩
  · rfl
  · rfl
  · have member := List.getLast_mem (List.cons_ne_nil second rest)
    generalize isLast : (second :: rest).getLast (List.cons_ne_nil second rest) = last at member
    have firstSettled := settled first List.mem_cons_self
    have lastSettled := settled last (List.mem_cons_of_mem first member)
    have sameLine : last.line = first.line :=
      (onLine last (List.mem_cons_of_mem first member)).trans
        (onLine first List.mem_cons_self).symm
    have lastThere : ((second :: rest).map (Token.relocated (muteOffset source))).getLast
        (List.cons_ne_nil _ _) = last.relocated (muteOffset source) := by
      rw [List.getLast_map, isLast]
    have oneLine : (source.take last.stop).count '\n' =
        (source.take first.offset).count '\n' := by
      have lastLine := lastSettled.line
      have firstLine := firstSettled.line
      have here := lastSettled.oneLine
      omega
    have stays := slice_mute_line oneLine lastSettled.closed
    rw [← lastSettled.stop_relocated, ← lastThere, ← isLast] at stays
    exact stays

/-- A statement on one line declares the same variable. -/
theorem variableOf?_mute {source : List Char} {statement : List Token}
    (settled : ∀ t ∈ statement, t.Settled source) {line : Nat}
    (onLine : ∀ t ∈ statement, t.line = line) :
    variableOf? (Mode.mute .code source) (statement.map (Token.relocated (muteOffset source))) =
      variableOf? source statement := by
  rcases statement with _ | ⟨name, _ | ⟨colon, _ | ⟨ty, _ | ⟨assign, _ | ⟨first, rest⟩⟩⟩⟩⟩
  case cons.cons.cons.cons.cons =>
    have value := valueText_mute (fun t member => settled t (by simp_all))
      (fun t member => onLine t (by simp_all) : ∀ t ∈ first :: rest, t.line = line)
    simp only [List.map_cons] at value ⊢
    rw [variableOf?, variableOf?, value]
    rfl
  all_goals rfl

/-- In the muted text a block declares the same variables. -/
theorem variables_relocated {source : List Char} {tokens : List Token}
    (settled : ∀ t ∈ tokens, t.Settled source) :
    (statements (tokens.map (Token.relocated (muteOffset source)))).filterMap
        (variableOf? (Mode.mute .code source)) =
      (statements tokens).filterMap (variableOf? source) := by
  rw [statements_relocated, List.filterMap_map]
  refine List.filterMap_congr fun statement member => ?_
  cases statement with
  | nil => rfl
  | cons first rest =>
      exact variableOf?_mute (fun t inside => settled t (mem_of_mem_statements member inside))
        (line_of_mem_statementsFrom (by simp) member rfl)

/-! ## The category of a gene -/

/-- A word without slashes and quotation marks is found in front of what it is found in
front of. -/
theorem behindWord?_mute {word : String} (plain : ∀ c ∈ word.toList, c ≠ '/' ∧ c ≠ '"')
    (text : List Char) :
    behindWord? word (Mode.mute .code text) =
      (behindWord? word text).map (Mode.mute .code) := by
  have isPrefix : word.toList.isPrefixOf (Mode.mute .code text) = word.toList.isPrefixOf text ∧
      (word.toList.isPrefixOf text = true →
        (Mode.mute .code text).drop word.toList.length =
          Mode.mute .code (text.drop word.toList.length)) := by
    generalize word.toList = word at plain
    induction word generalizing text with
    | nil => exact ⟨by simp, fun _ => rfl⟩
    | cons w word inductionHypothesis =>
        obtain ⟨here, later⟩ := List.forall_mem_cons.mp plain
        cases text with
        | nil => exact ⟨rfl, nofun⟩
        | cons c rest =>
            by_cases same : w = c
            · subst same
              have onward := inductionHypothesis rest later
              rw [Mode.mute_code_cons, Mode.step_code here.1 here.2]
              simpa using onward
            · have other : (w == c) = false := beq_false_of_ne same
              simp [List.isPrefixOf, other]
  obtain ⟨same, behind⟩ := isPrefix
  rw [behindWord?, behindWord?, same, ← String.length_toList]
  split
  · rename_i holds
    rw [behind holds, Option.map_some]
  · rfl

theorem leadingIdentifier?_mute (text : List Char) :
    leadingIdentifier? (Mode.mute .code text) = leadingIdentifier? text := by
  cases text with
  | nil => rfl
  | cons first rest =>
      rw [Mode.mute_code_cons, leadingIdentifier?, leadingIdentifier?]
      split
      · rename_i starts
        have plain : first ≠ '/' ∧ first ≠ '"' :=
          Mode.ne_of_plain (p := isWordStart) (by decide) (by decide) starts
        rw [Mode.step_code plain.1 plain.2, Mode.takeWhile_mute (by decide) (by decide)]
      · rfl

/-- In code the category of a line is spelled without a comment. -/
theorem categoryAt?_mute (text : List Char) :
    categoryAt? (Mode.mute .code text) = categoryAt? text := by
  have blanks : ∀ text, (Mode.mute .code text).dropWhile isBlank =
      Mode.mute .code (text.dropWhile isBlank) := Mode.dropWhile_mute (by decide) (by decide)
  have word : ∀ text, (behindWord? "category" (Mode.mute .code text) <|>
        behindWord? "type" (Mode.mute .code text)) =
      (behindWord? "category" text <|> behindWord? "type" text).map (Mode.mute .code) := by
    intro text
    rw [behindWord?_mute (by simp), behindWord?_mute (by simp)]
    cases behindWord? "category" text <;> rfl
  rw [categoryAt?, categoryAt?, blanks, word]
  cases behindWord? "category" (text.dropWhile isBlank) <|>
      behindWord? "type" (text.dropWhile isBlank) with
  | none => rfl
  | some behind =>
      dsimp only [Option.map_some, Option.bind_eq_bind, Option.bind_some]
      rw [blanks]
      rcases behind.dropWhile isBlank with _ | ⟨c, rest⟩
      · rfl
      · by_cases colon : c = ':'
        · subst colon
          have inCode : Mode.step .code ':' = .code := rfl
          rw [Mode.mute_code_cons, inCode]
          show leadingIdentifier? ((Mode.mute .code rest).dropWhile isBlank) =
            leadingIdentifier? (rest.dropWhile isBlank)
          rw [blanks, leadingIdentifier?_mute]
        · simp [colon]

theorem bodyCategory?_cons (lineStart : Bool) (c : Char) (rest : List Char) :
    bodyCategory? lineStart (c :: rest) =
      (if lineStart then categoryAt? (c :: rest) else none).or
        (bodyCategory? (c = '\n') rest) := by
  rw [bodyCategory?.eq_def]
  cases (if lineStart then categoryAt? (c :: rest) else none) <;> rfl

/-- Comments give no category, and take none away. -/
theorem bodyCategory?_mute {m : Mode} {lineStart : Bool} (inCode : lineStart = true → m = .code)
    (text : List Char) : bodyCategory? lineStart (m.mute text) = bodyCategory? lineStart text := by
  induction text generalizing m lineStart with
  | nil => rfl
  | cons c rest inductionHypothesis =>
      by_cases dropped : m = .comment ∧ c ≠ '\n'
      · obtain ⟨rfl, noBreak⟩ := dropped
        have inside : lineStart = false := by
          cases lineStart with
          | false => rfl
          | true => cases inCode rfl
        subst inside
        rw [Mode.mute_comment_cons noBreak, bodyCategory?_cons, decide_eq_false noBreak]
        exact inductionHypothesis nofun
      · have here : (if lineStart then categoryAt? (m.mute (c :: rest)) else none) =
            if lineStart then categoryAt? (c :: rest) else none := by
          split
          · rename_i starts
            rw [inCode starts, categoryAt?_mute]
          · rfl
        have onward : bodyCategory? (c = '\n') ((m.step c).mute rest) =
            bodyCategory? (c = '\n') rest := by
          refine inductionHypothesis fun ends => ?_
          rw [of_decide_eq_true ends, Mode.step_newline]
        rw [Mode.mute, if_neg dropped] at here ⊢
        rw [bodyCategory?_cons, bodyCategory?_cons, here, onward]

/-! ## Declarations -/

theorem headerCategory?_relocated (find : Nat → Nat) (header : List Token) :
    headerCategory? (header.map (Token.relocated find)) =
      (headerCategory? header).map (Token.relocated find) := by
  induction header with
  | nil => rfl
  | cons t rest inductionHypothesis =>
      have colon : (t.relocated find).isPunctuation ":" = t.isPunctuation ":" := rfl
      rw [List.map_cons, headerCategory?, headerCategory?, colon]
      split
      · cases rest <;> rfl
      · exact inductionHypothesis

/-- In the muted text a gene has a body with empty comments, and is the same otherwise. -/
theorem Section.gene_relocated {source : List Char} {s : Section}
    (inCode : Mode.after .code (source.take s.block.start) = .code) :
    (s.relocated (muteOffset source)).gene (Mode.mute .code source) =
      { s.gene source with body := emptyComments (s.gene source).body } := by
  have body := Block.text_relocated inCode
  have inBody : bodyCategory? true (emptyComments (s.block.text source)).toList =
      bodyCategory? true (s.block.text source).toList := by
    rw [emptyComments_eq, String.toList_ofList]
    exact bodyCategory?_mute (fun _ => rfl) _
  have name : ((s.relocated (muteOffset source)).header.head?.filter
        fun t => !t.isPunctuation ":").map (·.text) =
      (s.header.head?.filter fun t => !t.isPunctuation ":").map (·.text) := by
    show ((s.header.map _).head?.filter _).map _ = _
    rw [filter_head?_relocated (muteOffset source) (fun _ => rfl), Option.map_map]
    rfl
  have inHeader : (headerCategory? (s.relocated (muteOffset source)).header).map (·.text) =
      (headerCategory? s.header).map (·.text) := by
    show (headerCategory? (s.header.map _)).map _ = _
    rw [headerCategory?_relocated, Option.map_map]
    rfl
  have block : (s.relocated (muteOffset source)).block = s.block.relocated (muteOffset source) :=
    rfl
  rw [gene, gene, name, inHeader, block, body, inBody]
  rfl

/-- A setting with another text for the fitness goal. -/
def Setting.mapGoal (f : String → String) (key : String) (s : Setting) : Setting :=
  if key = "fitness_goal" then { s with value := f s.value } else s

/-- The entries of an evolution section with another text for the fitness goal. -/
def mapGoals (f : String → String) (entries : List (String × Setting)) : List (String × Setting) :=
  entries.map fun entry => (entry.1, entry.2.mapGoal f entry.1)

/-- The value of a setting stands on the line of its key. -/
theorem line_of_continuesValue {line : Nat} {t : Token} (goesOn : continuesValue line t = true) :
    t.line = line := of_decide_eq_true (Bool.and_eq_true_iff.mp goesOn).2

/-- In the muted text the settings are the same, but for the comments of the fitness
goal. -/
theorem settings_relocated {source : List Char} {limit : Nat} {tokens : List Token}
    (settled : ∀ t ∈ tokens, t.Settled source) :
    mapGoals emptyComments (settings (Mode.mute .code source) (muteOffset source limit)
        (tokens.map (Token.relocated (muteOffset source)))) =
      mapGoals emptyComments (settings source limit tokens) := by
  -- tests of tokens do not look at offsets
  let there := Token.relocated (muteOffset source)
  have goalThere (t next : Token) :
      ((there t).isKeyword "fitness_goal" && (there next).opensBlock) =
        (t.isKeyword "fitness_goal" && next.opensBlock) := rfl
  have entryThere (t next : Token) :
      ((there t).isWord && (there next).isPunctuation ":") =
        (t.isWord && next.isPunctuation ":") := rfl
  have opensThere (t : Token) : (there t).opensBlock = t.opensBlock := rfl
  have valueThere (t : Token) (rest : List Token) :
      (rest.map there).takeWhile (continuesValue (there t).line) =
        (rest.takeWhile (continuesValue t.line)).map there := List.takeWhile_map
  have othersThere (t : Token) (rest : List Token) :
      (rest.map there).dropWhile (continuesValue (there t).line) =
        (rest.dropWhile (continuesValue t.line)).map there := List.dropWhile_map
  fun_induction settings source limit tokens with
  | case1 => rw [List.map_nil, settings]
  | case2 => rw [List.map_cons, List.map_nil, settings]
  | case3 t next rest goal _ inductionHypothesis =>
      have opens := (Bool.and_eq_true_iff.mp goal).2
      have nextSettled := settled next (by simp)
      have later := inductionHypothesis fun u member =>
        settled u (by simp [(splitBlock_rest_isSuffix limit next rest).subset member])
      have inCode : Mode.after .code
          (source.take (splitBlock limit next rest).1.start) = .code := by
        rw [splitBlock_start]
        exact nextSettled.opens opens
      have text := Block.text_relocated inCode
      rw [List.map_cons, List.map_cons, settings, goalThere, if_pos goal,
        splitBlock_relocated _ limit nextSettled.stop_relocated, text]
      refine congrArg₂ (· :: ·) ?_ later
      simp only [Setting.mapGoal, if_true, emptyComments_emptyComments]
      rfl
  | case4 t next rest noGoal entry _ value others empty inductionHypothesis =>
      have later := inductionHypothesis fun u member =>
        settled u (by simp [(List.dropWhile_suffix _).subset member])
      rw [List.map_cons, List.map_cons, settings, goalThere, if_neg noGoal, entryThere,
        if_pos entry]
      dsimp only
      rw [valueThere, List.isEmpty_map, if_pos empty, othersThere]
      exact later
  | case5 t next rest noGoal entry _ value others nonempty inductionHypothesis =>
      have later := inductionHypothesis fun u member =>
        settled u (by simp [(List.dropWhile_suffix _).subset member])
      have text := @valueText_mute source (rest.takeWhile (continuesValue t.line))
        (fun u member => settled u (by simp [(List.takeWhile_prefix _).subset member])) t.line
        (fun u member => line_of_continuesValue
          (List.all_eq_true.mp List.all_takeWhile u member))
      rw [List.map_cons, List.map_cons, settings, goalThere, if_neg noGoal, entryThere,
        if_pos entry]
      dsimp only
      rw [valueThere, List.isEmpty_map, if_neg nonempty, othersThere, text]
      exact congrArg (_ :: ·) later
  | case6 t next rest noGoal noEntry opens _ inductionHypothesis =>
      have later := inductionHypothesis fun u member => settled u
        (List.mem_cons_of_mem t ((splitBlock_rest_isSuffix limit t _).subset member))
      have block := splitBlock_relocated _ limit (settled t (by simp)).stop_relocated (next :: rest)
      rw [List.map_cons] at block
      rw [List.map_cons, List.map_cons, settings, goalThere, if_neg noGoal, entryThere,
        if_neg noEntry, opensThere, if_pos opens, block]
      exact later
  | case7 t next rest noGoal noEntry opensNot inductionHypothesis =>
      have later := inductionHypothesis fun u member => settled u (List.mem_cons_of_mem t member)
      rw [List.map_cons, List.map_cons, settings, goalThere, if_neg noGoal, entryThere,
        if_neg noEntry, opensThere, if_neg opensNot]
      exact later

end Vivarium.Source
