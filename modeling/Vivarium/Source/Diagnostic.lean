/-!
# Diagnostics

Every phase of the compiler reports what it finds as diagnostics.  A diagnostic
points to a line and a column and says in which phase family it arose; only
errors keep a source from compiling.

Main definitions:

* `Diagnostic`: one finding;
* `Diagnostic.structural`, `Diagnostic.semantic`, `Diagnostic.warning`: the
  findings of the phases;
* `Diagnostic.render`: the line shown for it.
-/

namespace Vivarium.Source

namespace Diagnostic

/-- The family of phases that a diagnostic comes from. -/
inductive Category where
  | structural
  | semantic
  | running
  deriving Repr, DecidableEq

/-- The name under which a category is shown. -/
def Category.name : Category → String
  | .structural => "Syntax"
  | .semantic => "Semantic"
  | .running => "Runtime"

/-- All categories, in the order of their declaration. -/
def Category.all : List Category := [.structural, .semantic, .running]

/-- An error keeps a source from compiling; a warning does not. -/
inductive Severity where
  | error
  | warning
  deriving Repr, DecidableEq

/-- The name under which a severity is shown. -/
def Severity.name : Severity → String
  | .error => "Error"
  | .warning => "Warning"

/-- All severities, in the order of their declaration. -/
def Severity.all : List Severity := [.error, .warning]

end Diagnostic

/-- One finding about a source. -/
structure Diagnostic where
  line : Nat
  column : Nat
  message : String
  category : Diagnostic.Category
  severity : Diagnostic.Severity
  deriving Repr, DecidableEq

namespace Diagnostic

/-- An error in the arrangement of the tokens. -/
def structural (line column : Nat) (message : String) : Diagnostic :=
  ⟨line, column, message, .structural, .error⟩

/-- An error in what a unit says. -/
def semantic (line : Nat) (message : String) : Diagnostic :=
  ⟨line, 0, message, .semantic, .error⟩

/-- Something in a unit that is allowed but probably not meant. -/
def warning (line : Nat) (message : String) : Diagnostic :=
  ⟨line, 0, message, .semantic, .warning⟩

/-- The diagnostic is an error. -/
def isError (d : Diagnostic) : Bool := d.severity == .error

/-- The place and the message. -/
def render (d : Diagnostic) : String := "line " ++ toString d.line ++ ": " ++ d.message

/-- Order by line alone. -/
def lineLe (a b : Diagnostic) : Bool := a.line ≤ b.line

/-- Order by line and then by column. -/
def placeLe (a b : Diagnostic) : Bool :=
  a.line < b.line || (a.line = b.line && a.column ≤ b.column)

end Diagnostic

end Vivarium.Source
