import Vivarium.Toml.Literal
import Vivarium.Toml.Table

/-!
# Reading TOML

A TOML document is a sequence of lines.  A line gives a value to a key of the
current table, or it is a header that opens another table, or it is empty; any
of them may end with a comment.  Values that span lines are arrays and some
strings.  The document as a whole is a table, which is given as a JSON object.

Main definitions:

* `key?`: a dotted key;
* `value?`, `items?`, `pairs?`: a value, the items of an array, and the pairs of
  a table on one line, where the fuel bounds the number of parts;
* `Section`: the lines of one table;
* `Toml.parse?`: the value of a document.
-/

namespace Vivarium.Toml

/-! ## Blanks and comments -/

/-- A text without leading blanks. -/
def skipSpace (text : List Char) : List Char := text.dropWhile isSpace

/-- A text without a leading comment. -/
def skipComment : List Char → List Char
  | '#' :: rest => rest.dropWhile isPlain
  | text => text

/-- The text behind the end of a line, before which a comment may stand.  The last
line may end with the text. -/
def lineEnd? (text : List Char) : Option (List Char) :=
  match skipComment (skipSpace text) with
  | [] => some []
  | rest => newline? rest

/-- A text without leading blanks, comments and line breaks.  The fuel bounds the
number of lines. -/
def skipLines : Nat → List Char → List Char
  | 0, text => text
  | fuel + 1, text =>
      let rest := skipComment (skipSpace text)
      match newline? rest with
      | some rest => skipLines fuel rest
      | none => rest

/-! ## Keys -/

/-- A character of a key without quotes. -/
def isKeyPart (c : Char) : Bool := c.isAlphanum || c = '_' || c = '-'

/-- A part of a dotted key: without quotes, or a string on one line. -/
def simpleKey? (text : List Char) : Option (String × List Char) :=
  match text with
  | '"' :: rest => (basicTail? rest).map fun (contents, rest) => (String.ofList contents, rest)
  | '\'' :: rest => (literalTail? rest).map fun (contents, rest) => (String.ofList contents, rest)
  | _ =>
      let part := text.takeWhile isKeyPart
      if part.isEmpty then none else some (String.ofList part, text.dropWhile isKeyPart)

/-- The parts of a dotted key, with blanks around each of them.  The fuel bounds
their number. -/
def keyParts? : Nat → List Char → Option (List String × List Char)
  | 0, _ => none
  | fuel + 1, text => do
      let (part, rest) ← simpleKey? (skipSpace text)
      match skipSpace rest with
      | '.' :: rest => (keyParts? fuel rest).map fun (parts, rest) => (part :: parts, rest)
      | rest => some ([part], rest)

/-- Keys have fewer parts, and values nest less deeply, than this. -/
def depthLimit : Nat := 80

/-- A dotted key as its path and its last part. -/
def key? (text : List Char) : Option ((List String × String) × List Char) := do
  let (parts, rest) ← keyParts? (depthLimit - 1) text
  let last ← parts.getLast?
  return ((parts.dropLast, last), rest)

/-! ## Values -/

/-- A value given to a dotted key. -/
structure Pair where
  path : List String
  key : String
  value : Json

/-- The entries with pairs added in order. -/
def Entries.addPairs? (pairs : List Pair) (entries : Entries) : Option Entries :=
  pairs.foldlM (fun entries pair => entries.addPair? pair.path pair.key pair.value) entries

mutual

/-- The value that starts a text.  Arrays and tables on one line nest at most
`depth` levels. -/
def value? : Nat → Nat → List Char → Option (Json × List Char)
  | 0, _, _ => none
  | fuel + 1, depth, text =>
      match text, depth with
      | '[' :: _, 0 => none
      | '\x7b' :: _, 0 => none
      | '[' :: rest, depth + 1 =>
          match skipLines rest.length rest with
          | ']' :: rest => some (.array [], rest)
          | rest => (items? fuel depth rest).map fun (items, rest) => (.array items, rest)
      | '\x7b' :: rest, depth + 1 =>
          match skipSpace rest with
          | '\x7d' :: rest => some (.object [], rest)
          | rest => do
              let (pairs, rest) ← pairs? fuel depth rest
              let entries ← Entries.addPairs? pairs []
              return (entries.toJson, rest)
      | text, _ => literal? text

/-- The items of an array up to its closing bracket.  A comma may follow the last
one. -/
def items? : Nat → Nat → List Char → Option (List Json × List Char)
  | 0, _, _ => none
  | fuel + 1, depth, text =>
      match value? fuel depth text with
      | none => none
      | some (item, rest) =>
          match skipLines rest.length rest with
          | ']' :: rest => some ([item], rest)
          | ',' :: rest =>
              match skipLines rest.length rest with
              | ']' :: rest => some ([item], rest)
              | rest => (items? fuel depth rest).map fun (items, rest) => (item :: items, rest)
          | _ => none

/-- The pairs of a table on one line up to its closing brace. -/
def pairs? : Nat → Nat → List Char → Option (List Pair × List Char)
  | 0, _, _ => none
  | fuel + 1, depth, text =>
      match key? text with
      | some ((path, key), '=' :: rest) =>
          match value? fuel depth (skipSpace rest) with
          | none => none
          | some (value, rest) =>
              match skipSpace rest with
              | '\x7d' :: rest => some ([⟨path, key, value⟩], rest)
              | ',' :: rest =>
                  (pairs? fuel depth rest).map fun (pairs, rest) =>
                    (⟨path, key, value⟩ :: pairs, rest)
              | _ => none
      | _ => none

end

/-- The pair that starts a text. -/
def pair? (text : List Char) : Option (Pair × List Char) := do
  let ((path, key), rest) ← key? text
  match rest with
  | '=' :: rest =>
      let (value, rest) ← value? (2 * rest.length + 2) (depthLimit - 1) (skipSpace rest)
      return (⟨path, key, value⟩, rest)
  | _ => none

/-! ## Documents -/

/-- The header of a table. -/
inductive Header where
  | table (path : List String) (key : String)
  | item (path : List String) (key : String)

/-- The lines of one table: its header, unless it is the document's own table, and
its pairs. -/
structure Section where
  header : Option Header
  pairs : List Pair

/-- The header that starts a text. -/
def header? (text : List Char) : Option (Header × List Char) := do
  match text with
  | '[' :: '[' :: rest =>
      match ← key? rest with
      | ((path, key), ']' :: ']' :: rest) => return (.item path key, rest)
      | _ => none
  | '[' :: rest =>
      match ← key? rest with
      | ((path, key), ']' :: rest) => return (.table path key, rest)
      | _ => none
  | _ => none

/-- The sections of the lines of a document, behind a section that has begun.  The
fuel bounds the number of lines. -/
def sections? (current : Section) : Nat → List Char → Option (List Section)
  | 0, _ => none
  | fuel + 1, text =>
      match skipLines text.length text with
      | [] => some [current]
      | '[' :: rest => do
          let (header, rest) ← header? ('[' :: rest)
          let later ← sections? ⟨some header, []⟩ fuel (← lineEnd? rest)
          return current :: later
      | text => do
          let (pair, rest) ← pair? text
          sections? { current with pairs := current.pairs ++ [pair] } fuel (← lineEnd? rest)

/-- The document's table with the lines of a section added. -/
def Entries.addSection? (entries : Entries) (s : Section) : Option Entries :=
  match s.header with
  | none => entries.addPairs? s.pairs
  | some (.table path key) => entries.openTable? (Entries.addPairs? s.pairs) path key
  | some (.item path key) => entries.openItem? (Entries.addPairs? s.pairs) path key

/-- The value of a document.  A byte order mark may stand in front of it. -/
def parse? (text : String) : Option Json := do
  let characters := match text.toList with
    | '\ufeff' :: rest => rest
    | characters => characters
  let sections ← sections? ⟨none, []⟩ (characters.length + 1) characters
  let entries ← sections.foldlM Entries.addSection? []
  return entries.toJson

end Vivarium.Toml
