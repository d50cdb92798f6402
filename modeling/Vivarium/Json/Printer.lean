import Vivarium.Json.Basic
import Vivarium.Number.Layout
import Vivarium.Text.Quoted

/-!
# Writing JSON

A value is written either on one line without blanks or spread over lines with
two blanks per level, members and items each on a line of their own.  Doubles
are written in exchange form; a double that is not finite has no JSON form and
is written as `null`.

Main definitions:

* `quoteText`: a string literal;
* `Json.compact`: a value on one line;
* `Json.pretty`: a value over several lines.
-/

namespace Vivarium.Json

open Vivarium.Text (hexDigit)
open Vivarium.Number (exchange isFinite)

/-- A character as it stands in a string literal.  Only the quote, the backslash
and the controls of ASCII are escaped. -/
def escapeChar (c : Char) : List Char :=
  match c with
  | '"' => ['\\', '"']
  | '\\' => ['\\', '\\']
  | '\x08' => ['\\', 'b']
  | '\x0c' => ['\\', 'f']
  | '\n' => ['\\', 'n']
  | '\r' => ['\\', 'r']
  | '\t' => ['\\', 't']
  | c =>
      if c.toNat < 0x20 then
        ['\\', 'u', '0', '0', hexDigit (c.toNat / 16), hexDigit (c.toNat % 16)]
      else [c]

/-- A text as a string literal. -/
def quoteText (s : String) : String :=
  String.ofList ('"' :: s.toList.flatMap escapeChar ++ ['"'])

/-- A double as a number. -/
def realText (x : Float) : String := if isFinite x then exchange x else "null"

/-- The literal of a key; one that denotes no text is written empty. -/
def keyText (key : Option String) : String := quoteText (key.getD "")

/-- The line break and the blanks in front of a part at some level. -/
def indent (level : Nat) : String :=
  String.ofList ('\n' :: List.replicate (2 * level) ' ')

mutual

/-- A value on one line. -/
def compact : Json → String
  | .null => "null"
  | .bool b => if b then "true" else "false"
  | .int n => toString n
  | .real x => realText x
  | .text s => quoteText s
  | .void => "null"
  | .array items => "[" ++ compactItems items ++ "]"
  | .object members => "\x7b" ++ compactMembers members ++ "\x7d"

/-- The items of an array, separated by commas. -/
def compactItems : List Json → String
  | [] => ""
  | [item] => compact item
  | item :: rest => compact item ++ "," ++ compactItems rest

/-- The members of an object, separated by commas. -/
def compactMembers : List (Option String × Json) → String
  | [] => ""
  | [(key, item)] => keyText key ++ ":" ++ compact item
  | (key, item) :: rest => keyText key ++ ":" ++ compact item ++ "," ++ compactMembers rest

end

mutual

/-- A value over several lines, its parts one level further in. -/
def prettyAt (level : Nat) : Json → String
  | .null => "null"
  | .bool b => if b then "true" else "false"
  | .int n => toString n
  | .real x => realText x
  | .text s => quoteText s
  | .void => "null"
  | .array [] => "[]"
  | .array items => "[" ++ prettyItems (level + 1) items ++ indent level ++ "]"
  | .object [] => "\x7b\x7d"
  | .object members =>
      "\x7b" ++ prettyMembers (level + 1) members ++ indent level ++ "\x7d"

/-- The items of an array, each on a line of its own. -/
def prettyItems (level : Nat) : List Json → String
  | [] => ""
  | [item] => indent level ++ prettyAt level item
  | item :: rest => indent level ++ prettyAt level item ++ "," ++ prettyItems level rest

/-- The members of an object, each on a line of its own. -/
def prettyMembers (level : Nat) : List (Option String × Json) → String
  | [] => ""
  | [(key, item)] => indent level ++ keyText key ++ ": " ++ prettyAt level item
  | (key, item) :: rest =>
      indent level ++ keyText key ++ ": " ++ prettyAt level item ++ "," ++
        prettyMembers level rest

end

/-- A value over several lines. -/
def pretty (value : Json) : String := prettyAt 0 value

end Vivarium.Json
