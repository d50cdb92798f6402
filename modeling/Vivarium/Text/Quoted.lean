import Vivarium.Text.Combining
import Vivarium.Text.Invisible

/-!
# Quoted texts

A text value is displayed between double quotes, so that its limits and its
unusual characters can be seen.  A character that would end the literal or that
has no glyph of its own is written as an escape: six characters have a short
form, all others are written by code point in lower-case hexadecimal.

Main definitions:

* `hexDigits`: a number in lower-case hexadecimal without leading zeros;
* `escape`: one character as it stands in a quoted text;
* `quote`: the whole literal.
-/

namespace Vivarium.Text

/-- The lower-case hexadecimal digit of a number below sixteen. -/
def hexDigit (n : Nat) : Char :=
  if n < 10 then Char.ofNat (48 + n) else Char.ofNat (87 + n)

/-- A number in lower-case hexadecimal, without leading zeros. -/
def hexDigits (n : Nat) : List Char :=
  if _small : n < 16 then [hexDigit n] else hexDigits (n / 16) ++ [hexDigit (n % 16)]
termination_by n
decreasing_by omega

/-- A character written by its code point. -/
def escapeCode (c : Char) : List Char :=
  ['\\', 'u', '\x7b'] ++ hexDigits c.toNat ++ ['\x7d']

/-- One character as it stands in a quoted text.  A combining mark is escaped
too, because it would otherwise attach to the character before it. -/
def escape (c : Char) : List Char :=
  match c with
  | '"' => ['\\', '"']
  | '\\' => ['\\', '\\']
  | '\n' => ['\\', 'n']
  | '\r' => ['\\', 'r']
  | '\t' => ['\\', 't']
  | '\x00' => ['\\', '0']
  | c => if isInvisible c || isCombining c then escapeCode c else [c]

/-- A text as a literal between double quotes. -/
def quote (text : String) : String :=
  String.ofList ('"' :: text.toList.flatMap escape ++ ['"'])

example : quote "a\"b\n" = "\"a\\\"b\\n\"" := by decide +kernel

end Vivarium.Text
