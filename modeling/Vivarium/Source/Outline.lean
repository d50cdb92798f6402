import Vivarium.Source.Diagnostic
import Vivarium.Source.Lexer

/-!
# The outline of a source

Before a source is read as a unit its tokens have to be arranged like one:
exactly one organism is declared, with a name; sections stand inside its body;
genes are named; braces balance; and state variables have a known type.  The
checks look at tokens alone, so they also work on a text that is half written,
and they report everything they find.

Main definitions:

* `declarationErrors`: the placement and the names of declarations;
* `braceErrors`: braces without a partner;
* `stateTypeErrors`: declared types of state variables;
* `outlineErrors`: all of them, by line and column.
-/

namespace Vivarium.Source

/-- The types that a state variable may declare. -/
def stateTypes : List String := ["float", "int", "bool", "string"]

/-- The keywords of sections, which belong inside an organism body. -/
def sectionKeywords : List String := ["state", "gene", "workflow", "evolution"]

/-- An error at the place of a token. -/
def Token.complain (t : Token) (message : String) : Diagnostic :=
  Diagnostic.structural t.line t.column message

/-- The following token, if it stands on the same line. -/
def Token.nextOnLine (t : Token) (rest : List Token) : Option Token :=
  rest.head?.filter fun next => next.line = t.line

/-- What is wrong with the name behind an `organism` keyword.  A name that is no
identifier is reported at its own place, a missing one at the keyword. -/
def organismNameErrors (t : Token) (rest : List Token) : List Diagnostic :=
  match t.nextOnLine rest with
  | some name =>
      if name.kind = .identifier then []
      else [name.complain ("Invalid organism name '" ++ name.text ++ "'")]
  | none => [t.complain "Organism declaration requires a name"]

/-- What is wrong with a section keyword: outside of every block, or a gene
without a name. -/
def sectionErrors (depth : Nat) (t : Token) (rest : List Token) : List Diagnostic :=
  let misplaced :=
    if depth = 0 then
      [t.complain ("'" ++ t.text ++ "' section must be inside an organism body")]
    else []
  let named := (t.nextOnLine rest).any fun name =>
    name.kind = .identifier && isIdentifier name.text
  let nameless :=
    if t.text = "gene" && !named then
      [t.complain "Gene declaration requires a valid identifier"]
    else []
  misplaced ++ nameless

/-- The errors of all declarations behind a prefix of the source with the given
depth of open blocks and the given number of organism declarations.  Where no
block is open, a closing brace leaves the depth at zero. -/
def declarationErrors (depth declared : Nat) : List Token → List Diagnostic
  | [] => if declared = 0 then [Diagnostic.structural 1 0 "Missing organism declaration"] else []
  | t :: rest =>
      if t.opensBlock then declarationErrors (depth + 1) declared rest
      else if t.closesBlock then declarationErrors (depth - 1) declared rest
      else if t.isKeyword "organism" then
        if 0 < depth then
          t.complain "Organism declarations cannot be nested" ::
            declarationErrors depth declared rest
        else
          let repeated :=
            if 0 < declared then
              [t.complain "Only one organism declaration is allowed per source"]
            else []
          repeated ++ organismNameErrors t rest ++ declarationErrors depth (declared + 1) rest
      else if t.kind = .keyword && sectionKeywords.contains t.text then
        sectionErrors depth t rest ++ declarationErrors depth declared rest
      else declarationErrors depth declared rest

/-- The closing braces that find no open one, and then the opening braces that
are never closed, outermost first.  The list of opening braces that are still
open has the innermost in front. -/
def unmatchedBraces (pending : List Token) : List Token → List Token × List Token
  | [] => ([], pending.reverse)
  | t :: rest =>
      if t.opensBlock then unmatchedBraces (t :: pending) rest
      else if t.closesBlock then
        match pending with
        | [] =>
            let (closing, opening) := unmatchedBraces [] rest
            (t :: closing, opening)
        | _ :: outer => unmatchedBraces outer rest
      else unmatchedBraces pending rest

/-- The errors for all braces without a partner. -/
def braceErrors (tokens : List Token) : List Diagnostic :=
  let (closing, opening) := unmatchedBraces [] tokens
  closing.map (·.complain "Unmatched closing brace") ++
    opening.map (·.complain "Unclosed brace")

/-- A statement starts a line or follows a semicolon or a brace. -/
def startsStatement (previous : Option Token) (t : Token) : Bool :=
  match previous with
  | none => true
  | some p => p.line ≠ t.line || p.isPunctuation ";" || p.opensBlock || p.closesBlock

/-- The complaint about an unknown type. -/
def unknownType (name ty : Token) : Diagnostic :=
  ty.complain ("Unknown type '" ++ ty.text ++ "' for state variable '" ++ name.text ++
    "'; expected one of " ++ ", ".intercalate stateTypes)

/-- The type error of a statement that begins with the four given tokens: it is
a state declaration if these are a word, a colon, an identifier and an equals
sign, the last on the line of the first. -/
def stateTypeError (name colon ty assign : Token) : List Diagnostic :=
  if name.isWord && colon.isPunctuation ":" && ty.kind = .identifier &&
      assign.is .operator "=" && assign.line = name.line &&
      !stateTypes.contains ty.text then
    [unknownType name ty]
  else []

/-- The type errors of all state declarations behind the given token.  Fewer
than four tokens hold no declaration. -/
def stateTypeErrors (previous : Option Token) : List Token → List Diagnostic
  | [] => []
  | name :: rest =>
      let here := match rest with
        | colon :: ty :: assign :: _ =>
            if startsStatement previous name then stateTypeError name colon ty assign else []
        | _ => []
      here ++ stateTypeErrors (some name) rest

/-- Everything that is wrong with the arrangement of tokens, sorted by place. -/
def tokenErrors (tokens : List Token) : List Diagnostic :=
  (declarationErrors 0 0 tokens ++ braceErrors tokens ++
    stateTypeErrors none tokens).mergeSort Diagnostic.placeLe

/-- Everything that is wrong with the arrangement of a source. -/
def outlineErrors (source : String) : List Diagnostic := tokenErrors (tokenize source)

end Vivarium.Source
