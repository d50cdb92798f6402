import Vivarium.Proofs.Source.Assignment

/-!
# Blocks on lines of their own

A block is written as a header with a brace, what is inside, and the closing brace on
a line of its own.  Its tokens are those of the header, the brace, the tokens inside,
and the closing brace; the text between the braces is what is inside, between two line
breaks.

Main definitions:

* `blockLines`: the lines of a block whose header is given token by token;
* `opening`, `inner`, `closing`: its braces and the place where its inside starts.

Main statements:

* `tokensFrom_blockLines`: the tokens of a block;
* `balanced_blockLines`: a block is balanced if its inside is;
* `Stands.inside_blockLines`, `Stands.slice_blockLines`: what stands between the braces.
-/

namespace Vivarium.Source

open Vivarium.Text (trim)

/-- The lines of a block. -/
def blockLines (heading : List Piece) (inside : List (List Char)) : List (List Char) :=
  written (heading ++ [.space, markPiece '\x7b']) :: (inside ++ [['\x7d']])

/-- The lines of a block are given by its header token by token. -/
theorem map_block {header : String} {heading : List Piece}
    (spelled : header.toList = written heading) (inside : List String) :
    (block header inside).map String.toList =
      blockLines heading (inside.map String.toList) := by
  simp [block, blockLines, written_append, spelled, markPiece, Piece.text]

/-- The brace that opens a block. -/
def opening (heading : List Piece) (place : Position) : Token :=
  Token.spanning .punctuation (place.advance (written (heading ++ [.space]))) ['\x7b']

/-- The place where the inside of a block starts: behind its first line. -/
def inner (heading : List Piece) (place : Position) : Position :=
  place.advance (written (heading ++ [.space, markPiece '\x7b']) ++ ['\n'])

/-- The brace that closes a block. -/
def closing (heading : List Piece) (inside : List (List Char)) (place : Position) : Token :=
  Token.spanning .punctuation ((inner heading place).advance (unlines inside)) ['\x7d']

theorem tokens_heading (heading : List Piece) (place : Position) :
    Piece.tokens place (heading ++ [.space, markPiece '\x7b']) =
      Piece.tokens place heading ++ [opening heading place] := by
  rw [Piece.tokens_append, opening, written_append, Position.advance_append]
  rfl

section Lines

variable {heading : List Piece}

theorem tokensFrom_blockLines
    (legible : LegibleLine (heading ++ [.space, markPiece '\x7b']))
    (inside : List (List Char)) (place : Position) :
    tokensFrom place (unlines (blockLines heading inside)) =
      Piece.tokens place heading ++ opening heading place ::
        (tokensFrom (inner heading place) (unlines inside) ++ [closing heading inside place]) := by
  have lastLine : ∀ place, tokensFrom place (unlines [['\x7d']]) =
      [Token.spanning .punctuation place ['\x7d']] := by
    intro place
    rw [tokensFrom_unlines_cons, unlines_nil, tokensFrom_nil, List.append_nil]
    have mark : Legible .punctuation ['\x7d'] [] := legible_mark (by decide) []
    have alone := mark place
    rw [List.append_nil, tokensFrom_nil] at alone
    exact alone
  rw [blockLines, tokensFrom_unlines_cons, tokensFrom_written legible, tokens_heading,
    tokensFrom_unlines_append, lastLine, List.append_assoc]
  rfl

/-- A block is balanced if nothing in its header is a brace and its inside is
balanced. -/
theorem balanced_blockLines
    (legible : LegibleLine (heading ++ [.space, markPiece '\x7b'])) {place : Position}
    (plain : ∀ t ∈ Piece.tokens place heading, t.IsPlain) {inside : List (List Char)}
    (balanced : Balanced (tokensFrom (inner heading place) (unlines inside))) :
    Balanced (tokensFrom place (unlines (blockLines heading inside))) := by
  rw [tokensFrom_blockLines legible]
  exact (Balanced.of_plain plain).append (balanced.enclose rfl rfl rfl)

/-- The inside of a block stands at its place. -/
theorem Stands.inside_blockLines {source : List Char} {place : Position}
    {inside : List (List Char)}
    (stands : Stands source place (unlines (blockLines heading inside))) :
    Stands source (inner heading place) (unlines inside) := by
  have behind := stands.of_unlines_cons.2
  rw [unlines_append, stands_append] at behind
  exact behind.1

/-- Between the braces of a block stands its inside, behind a line break. -/
theorem Stands.slice_blockLines {source : List Char} {place : Position}
    {inside : List (List Char)}
    (stands : Stands source place (unlines (blockLines heading inside))) :
    slice source (opening heading place).stop (closing heading inside place).offset =
      String.ofList (trim ('\n' :: unlines inside)) := by
  have firstLine : written (heading ++ [.space, markPiece '\x7b']) =
      written (heading ++ [.space]) ++ ['\x7b'] := by
    rw [written_append, written_append, List.append_assoc]
    rfl
  have regroup : unlines (blockLines heading inside) =
      written (heading ++ [.space, markPiece '\x7b']) ++
        (('\n' :: unlines inside) ++ unlines [['\x7d']]) := by
    rw [blockLines, unlines_cons, unlines_append, List.cons_append]
  rw [regroup, stands_append, stands_append] at stands
  have excerpt := stands.2.1.slice_eq
  rw [opening, closing, Token.stop_spanning, Token.offset_spanning, inner,
    ← Position.advance_append, ← Position.advance_append, ← firstLine,
    Position.advance_append place, Position.advance_append]
  exact excerpt

/-- The text of a block that holds a text on lines of its own. -/
theorem Stands.slice_prose {source : List Char} {place : Position} {text : Prose}
    (stands : Stands source place (unlines (blockLines heading [text.text.toList]))) :
    slice source (opening heading place).stop
        (closing heading [text.text.toList] place).offset = text.text := by
  rw [stands.slice_blockLines, unlines_cons, unlines_nil, trim_lines, text.trimmed,
    String.ofList_toList]

end Lines

/-- A text whose braces balance does so wherever it stands. -/
theorem Prose.balanced_lines (text : Prose) (place : Position) :
    Balanced (tokensFrom place (unlines [text.text.toList])) := by
  rw [tokensFrom_unlines_cons, unlines_nil, tokensFrom_nil, List.append_nil]
  exact text.balanced.congr (shapes_tokensFrom _ _ _)

end Vivarium.Source
