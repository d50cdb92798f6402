/-!
# Blank characters

Source texts, workflow programs and conditions are cut at *blank* characters,
and a blank is a character with the Unicode property `White_Space`.  The
property is a short list of closed ranges of code points, so it is kept as
data and membership is decided by walking the list.

Main definitions:

* `isBlank`: membership in the property;
* `trim`: a text without the blanks at its two ends;
* `words`: the maximal blank-free runs of a text, in order.
-/

namespace Vivarium.Text

/-- The code points with the Unicode property `White_Space`, as closed ranges
in ascending order. -/
def blankRanges : List (Nat × Nat) :=
  [(0x09, 0x0D), (0x20, 0x20), (0x85, 0x85), (0xA0, 0xA0), (0x1680, 0x1680),
   (0x2000, 0x200A), (0x2028, 0x2029), (0x202F, 0x202F), (0x205F, 0x205F),
   (0x3000, 0x3000)]

/-- A character is blank when its code point lies in one of `blankRanges`. -/
def isBlank (c : Char) : Bool :=
  blankRanges.any fun range => range.1 ≤ c.toNat && c.toNat ≤ range.2

/-- A text without its leading blanks. -/
def trimStart (text : List Char) : List Char := text.dropWhile isBlank

/-- A text without its trailing blanks. -/
def trimEnd (text : List Char) : List Char := (text.reverse.dropWhile isBlank).reverse

/-- A text without the blanks at its two ends; blanks inside are kept. -/
def trim (text : List Char) : List Char := trimEnd (trimStart text)

/-- The run under construction, closed off: an empty run is no word. -/
def closeWord (run : List Char) (rest : List (List Char)) : List (List Char) :=
  if run.isEmpty then rest else run :: rest

/-- The first blank-free run of a text, possibly empty, and the words after it. -/
def runAndWords : List Char → List Char × List (List Char)
  | [] => ([], [])
  | c :: rest =>
      let (run, words) := runAndWords rest
      if isBlank c then ([], closeWord run words) else (c :: run, words)

/-- The maximal blank-free runs of a text, from left to right. -/
def words (text : List Char) : List (List Char) :=
  let (run, rest) := runAndWords text
  closeWord run rest

@[simp]
theorem isBlank_newline : isBlank '\n' = true := by decide

end Vivarium.Text
