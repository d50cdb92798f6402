import Vivarium.Json.Basic
import Vivarium.Number.Numeral
import Vivarium.Time.Calendar

/-!
# Literals of TOML

The values of a TOML document that have no parts: strings in four notations,
integers in four bases, doubles, truth values, and dates with or without times.
Each reader takes the literal that starts a text and gives its value with the
text behind it.  Configurations have no use for dates; a date is kept as an
object with one member, so that no other type accepts it.

Main definitions:

* `string?`: the string that starts a text;
* `float?`, `integer?`: the number that starts a text;
* `dateTime?`: the text behind a date, a time, or both;
* `literal?`: any literal.
-/

namespace Vivarium.Toml

open Vivarium.Number (digitsValue infinity nan ofDecimal signBound withSign)

/-! ## Characters -/

/-- The blanks within a line. -/
def isSpace (c : Char) : Bool := c = ' ' || c = '\t'

/-- A character that may stand in comments and strings as it is: a tab, or one that
is no control of ASCII. -/
def isPlain (c : Char) : Bool := c = '\t' || (0x20 ≤ c.toNat && c.toNat ≠ 0x7F)

/-- The text behind a line break. -/
def newline? : List Char → Option (List Char)
  | '\n' :: rest => some rest
  | '\r' :: '\n' :: rest => some rest
  | _ => none

/-- The value of a hexadecimal digit. -/
def digitValue (c : Char) : Nat :=
  if c.isDigit then c.toNat - 48 else if c.isLower then c.toNat - 87 else c.toNat - 55

/-- A hexadecimal digit in either case. -/
def isHexDigit (c : Char) : Bool :=
  c.isDigit || ('a' ≤ c && c ≤ 'f') || ('A' ≤ c && c ≤ 'F')

/-- The number of a run of digits in some base. -/
def baseValue (base : Nat) (digits : List Char) : Nat :=
  digits.foldl (fun n c => n * base + digitValue c) 0

/-! ## Strings -/

/-- What the escapes of one letter stand for. -/
def letterEscape? (c : Char) : Option Char :=
  match c with
  | 'b' => some '\x08'
  | 't' => some '\t'
  | 'n' => some '\n'
  | 'f' => some '\x0c'
  | 'r' => some '\r'
  | '"' => some '"'
  | '\\' => some '\\'
  | _ => none

/-- The character of a code point in hexadecimal, if there is one. -/
def codePoint? (digits : List Char) : Option Char :=
  let n := baseValue 16 digits
  if digits.all isHexDigit && n.isValidChar then some (Char.ofNat n) else none

/-- The contents of a string on one line behind its opening quote, and the text
behind its closing quote. -/
def basicTail? : List Char → Option (List Char × List Char)
  | [] => none
  | '"' :: rest => some ([], rest)
  | '\\' :: 'u' :: a :: b :: c :: d :: rest => do
      let escaped ← codePoint? [a, b, c, d]
      let (contents, rest) ← basicTail? rest
      return (escaped :: contents, rest)
  | '\\' :: 'U' :: a :: b :: c :: d :: e :: f :: g :: h :: rest => do
      let escaped ← codePoint? [a, b, c, d, e, f, g, h]
      let (contents, rest) ← basicTail? rest
      return (escaped :: contents, rest)
  | '\\' :: c :: rest => do
      let escaped ← letterEscape? c
      let (contents, rest) ← basicTail? rest
      return (escaped :: contents, rest)
  | c :: rest =>
      if isPlain c then (basicTail? rest).map fun (contents, rest) => (c :: contents, rest)
      else none

/-- The contents of a string over several lines behind its opening quotes, and the
text behind its closing quotes.  Up to two quotes may stand before the closing
ones.  After a backslash at the end of a line all blanks and line breaks are left
out. -/
def basicLinesTail? (skipping : Bool) : List Char → Option (List Char × List Char)
  | [] => none
  | '"' :: '"' :: '"' :: '"' :: '"' :: rest => some (['"', '"'], rest)
  | '"' :: '"' :: '"' :: '"' :: rest => some (['"'], rest)
  | '"' :: '"' :: '"' :: rest => some ([], rest)
  | '\r' :: '\n' :: rest =>
      if skipping then basicLinesTail? true rest
      else (basicLinesTail? false rest).map fun (contents, rest) => ('\n' :: contents, rest)
  | '\\' :: 'u' :: a :: b :: c :: d :: rest => do
      let escaped ← codePoint? [a, b, c, d]
      let (contents, rest) ← basicLinesTail? false rest
      return (escaped :: contents, rest)
  | '\\' :: 'U' :: a :: b :: c :: d :: e :: f :: g :: h :: rest => do
      let escaped ← codePoint? [a, b, c, d, e, f, g, h]
      let (contents, rest) ← basicLinesTail? false rest
      return (escaped :: contents, rest)
  | '\\' :: c :: rest =>
      if (newline? ((c :: rest).dropWhile isSpace)).isSome then
        basicLinesTail? true (c :: rest)
      else do
        let escaped ← letterEscape? c
        let (contents, rest) ← basicLinesTail? false rest
        return (escaped :: contents, rest)
  | c :: rest =>
      if skipping && (isSpace c || c = '\n') then basicLinesTail? true rest
      else if isPlain c || c = '\n' then
        (basicLinesTail? false rest).map fun (contents, rest) => (c :: contents, rest)
      else none

/-- The contents of a literal string behind its opening quote, and the text behind
its closing quote. -/
def literalTail? : List Char → Option (List Char × List Char)
  | [] => none
  | '\'' :: rest => some ([], rest)
  | c :: rest =>
      if isPlain c then (literalTail? rest).map fun (contents, rest) => (c :: contents, rest)
      else none

/-- The contents of a literal string over several lines behind its opening quotes,
and the text behind its closing quotes. -/
def literalLinesTail? : List Char → Option (List Char × List Char)
  | [] => none
  | '\'' :: '\'' :: '\'' :: '\'' :: '\'' :: rest => some (['\'', '\''], rest)
  | '\'' :: '\'' :: '\'' :: '\'' :: rest => some (['\''], rest)
  | '\'' :: '\'' :: '\'' :: rest => some ([], rest)
  | '\r' :: '\n' :: rest =>
      (literalLinesTail? rest).map fun (contents, rest) => ('\n' :: contents, rest)
  | c :: rest =>
      if isPlain c || c = '\n' then
        (literalLinesTail? rest).map fun (contents, rest) => (c :: contents, rest)
      else none

/-- A text without a line break at its start. -/
def dropNewline (text : List Char) : List Char := (newline? text).getD text

/-- The string that starts a text, in any notation. -/
def string? (text : List Char) : Option (String × List Char) :=
  let found := match text with
    | '"' :: '"' :: '"' :: rest => basicLinesTail? false (dropNewline rest)
    | '"' :: rest => basicTail? rest
    | '\'' :: '\'' :: '\'' :: rest => literalLinesTail? (dropNewline rest)
    | '\'' :: rest => literalTail? rest
    | _ => none
  found.map fun (contents, rest) => (String.ofList contents, rest)

/-! ## Numbers -/

/-- Digits behind a digit.  A single underscore may stand between two of them. -/
def moreDigits? (isDigit : Char → Bool) : List Char → Option (List Char × List Char)
  | '_' :: c :: rest =>
      if isDigit c then
        (moreDigits? isDigit rest).map fun (digits, rest) => (c :: digits, rest)
      else none
  | c :: rest =>
      if isDigit c then
        (moreDigits? isDigit rest).map fun (digits, rest) => (c :: digits, rest)
      else if c = '_' then none
      else some ([], c :: rest)
  | [] => some ([], [])

/-- A run of digits, with underscores between some of them. -/
def digitRun? (isDigit : Char → Bool) : List Char → Option (List Char × List Char)
  | c :: rest =>
      if isDigit c then
        (moreDigits? isDigit rest).map fun (digits, rest) => (c :: digits, rest)
      else none
  | [] => none

/-- A decimal integer without sign: a zero, or digits that do not start with one. -/
def wholeDigits? : List Char → Option (List Char × List Char)
  | '0' :: rest => some (['0'], rest)
  | text => digitRun? Char.isDigit text

/-- The sign and the digits of a decimal integer. -/
def signedDigits? (text : List Char) : Option (Bool × List Char × List Char) :=
  let (negative, unsigned) := Number.splitSign text
  (wholeDigits? unsigned).map fun (digits, rest) => (negative, digits, rest)

/-- The exponent that starts a text. -/
def exponent? : List Char → Option (Int × List Char)
  | mark :: rest =>
      if mark = 'e' || mark = 'E' then do
        let (negative, unsigned) := Number.splitSign rest
        let (digits, rest) ← digitRun? Char.isDigit unsigned
        let n : Int := digitsValue digits
        return (if negative then -n else n, rest)
      else none
  | [] => none

/-- The digits behind a point, the exponent, and the text behind both.  One of the
two has to be there. -/
def fractionAndExponent? (text : List Char) : Option (List Char × Int × List Char) :=
  match text with
  | '.' :: rest => do
      let (fraction, rest) ← digitRun? Char.isDigit rest
      match rest with
      | 'e' :: _ | 'E' :: _ => (exponent? rest).map fun (n, rest) => (fraction, n, rest)
      | _ => some (fraction, 0, rest)
  | _ => (exponent? text).map fun (n, rest) => ([], n, rest)

/-- The double that starts a text, written with a fraction or an exponent.  It must
not be above the greatest double. -/
def decimal? (text : List Char) : Option (Float × List Char) := do
  let (negative, whole, rest) ← signedDigits? text
  let (fraction, exponent, rest) ← fractionAndExponent? rest
  let x := withSign negative
    (ofDecimal (digitsValue (whole ++ fraction)) (exponent - fraction.length))
  if x == infinity then none else some (x, rest)

/-- A text behind a word that it has to start with. -/
def behindWord? (word : String) (text : List Char) : Option (List Char) :=
  if word.toList.isPrefixOf text then some (text.drop word.length) else none

/-- The double that starts a text and is written as a word. -/
def floatWord? (text : List Char) : Option (Float × List Char) :=
  let (negative, unsigned) := Number.splitSign text
  ((behindWord? "inf" unsigned).map fun rest => (withSign negative infinity, rest)) <|>
    ((behindWord? "nan" unsigned).map fun rest => (withSign negative nan, rest))

/-- The double that starts a text. -/
def float? (text : List Char) : Option (Float × List Char) := decimal? text <|> floatWord? text

/-- An integer that a signed machine word holds. -/
def word? (n : Int) : Option Int :=
  if -(signBound : Int) ≤ n && n < signBound then some n else none

/-- The integer whose digits in some base start a text. -/
def inBase? (base : Nat) (isDigit : Char → Bool) (text : List Char) :
    Option (Int × List Char) := do
  let (digits, rest) ← digitRun? isDigit text
  let n ← word? (baseValue base digits)
  return (n, rest)

/-- The integer that starts a text. -/
def integer? : List Char → Option (Int × List Char)
  | '0' :: 'x' :: rest => inBase? 16 isHexDigit rest
  | '0' :: 'o' :: rest => inBase? 8 (fun c => '0' ≤ c && c ≤ '7') rest
  | '0' :: 'b' :: rest => inBase? 2 (fun c => c = '0' || c = '1') rest
  | text => do
      let (negative, digits, rest) ← signedDigits? text
      let n : Int := digitsValue digits
      let n ← word? (if negative then -n else n)
      return (n, rest)

/-! ## Dates and times -/

/-- The number of a fixed count of digits. -/
def fixedDigits? (count : Nat) (text : List Char) : Option (Nat × List Char) :=
  let digits := text.take count
  if digits.length = count && digits.all Char.isDigit then
    some (digitsValue digits, text.drop count)
  else none

/-- A number of two digits between two bounds. -/
def twoDigits? (least most : Nat) (text : List Char) : Option (List Char) := do
  let (n, rest) ← fixedDigits? 2 text
  if least ≤ n && n ≤ most then some rest else none

/-- The text behind a character that it has to start with. -/
def behindChar? (mark : Char) : List Char → Option (List Char)
  | c :: rest => if c = mark then some rest else none
  | [] => none

/-- The text behind a time of day with seconds. -/
def time? (text : List Char) : Option (List Char) := do
  let rest ← twoDigits? 0 23 text
  let rest ← twoDigits? 0 59 (← behindChar? ':' rest)
  let rest ← twoDigits? 0 60 (← behindChar? ':' rest)
  return match rest with
    | '.' :: d :: more => if d.isDigit then more.dropWhile Char.isDigit else rest
    | _ => rest

/-- The text behind an offset from universal time, which may be missing. -/
def afterOffset (text : List Char) : List Char :=
  match text with
  | 'Z' :: rest | 'z' :: rest => rest
  | '+' :: rest | '-' :: rest =>
      let behind := do twoDigits? 0 59 (← behindChar? ':' (← twoDigits? 0 23 rest))
      behind.getD text
  | _ => text

/-- The text behind the time of a date, which may be missing. -/
def afterTime (text : List Char) : List Char :=
  match text with
  | mark :: rest =>
      if mark = 'T' || mark = 't' || mark = ' ' then ((time? rest).map afterOffset).getD text
      else text
  | [] => []

/-- The text behind a date of the calendar. -/
def date? (text : List Char) : Option (List Char) := do
  let (year, rest) ← fixedDigits? 4 text
  let (month, rest) ← fixedDigits? 2 (← behindChar? '-' rest)
  let (day, rest) ← fixedDigits? 2 (← behindChar? '-' rest)
  if Calendar.Date.isValid ⟨year, month, day⟩ then some rest else none

/-- The text behind a date, a date with a time, or a time. -/
def dateTime? (text : List Char) : Option (List Char) := (date? text).map afterTime <|> time? text

/-! ## All literals -/

/-- A date as a value. -/
def dateValue (text : List Char) : Json :=
  .record [("date-time", .text (String.ofList text))]

/-- The literal that starts a text.  Dates are tried before numbers, which they
start with. -/
def literal? (text : List Char) : Option (Json × List Char) :=
  ((string? text).map fun (s, rest) => (.text s, rest)) <|>
    ((dateTime? text).map fun rest =>
      (dateValue (text.take (text.length - rest.length)), rest)) <|>
    ((float? text).map fun (x, rest) => (.real x, rest)) <|>
    ((integer? text).map fun (n, rest) => (.int n, rest)) <|>
    ((behindWord? "true" text).map fun rest => (.bool true, rest)) <|>
    ((behindWord? "false" text).map fun rest => (.bool false, rest))

end Vivarium.Toml
