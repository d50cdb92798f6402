import Vivarium.Breeding.Population
import Vivarium.Config.File

/-!
# Sessions

A session is one run of a command.  It writes lines to the two outputs and may
wait for a while; it ends well or with a failure.  What it needs of the world is
given to it as a value, so that a session is a function.

Main definitions:

* `Surroundings`: what a session knows of the world;
* `Line`: what a session does to the world;
* `Failure`: how a session ends before its end;
* `Session`, `Outcome`: the session and what it comes to.
-/

namespace Vivarium.CommandLine

/-- What a session knows of the world: the contents of files, or why they cannot be
read, two variables of the environment, what the clock shows each time it is read,
and seeds and ids that nobody can foresee. -/
structure Surroundings where
  contents : String → Except String String
  seed : Option String
  level : Option String
  clock : Readings
  habitatSeed : Nat
  nurserySeed : Nat
  supply : IdSupply

/-- What a session does to the world. -/
inductive Line where
  | out (text : String)
  | err (text : String)
  | wait (span : Span)
  deriving Repr, DecidableEq

/-- How a session ends before its end: a message, and what caused it. -/
structure Failure where
  message : String
  cause : Option String
  deriving Repr, DecidableEq

/-- The text of a failure; a cause is indented. -/
def Failure.text (f : Failure) : String :=
  "Error: " ++ f.message ++
    match f.cause with
    | none => ""
    | some cause => "\n\nCaused by:\n    " ++ "\n    ".intercalate (cause.splitOn "\n")

/-- A run of a command, with the lines so far. -/
abbrev Session := ExceptT Failure (StateM (List Line))

namespace Session

/-- Writes a line to the standard output. -/
def say (text : String) : Session Unit := modify (· ++ [.out text])

/-- Writes a line to the error output. -/
def warn (text : String) : Session Unit := modify (· ++ [.err text])

/-- Waits for a span of time. -/
def wait (span : Span) : Session Unit := modify (· ++ [.wait span])

/-- Ends the session with a failure. -/
def fail (message : String) (cause : Option String) : Session α := throw ⟨message, cause⟩

/-- The contents of a file. -/
def read (s : Surroundings) (path : String) : Session String :=
  match s.contents path with
  | .ok text => pure text
  | .error cause => fail ("failed to read " ++ path) (some cause)

/-- The configuration in a file, or the standard one, overridden by the
environment. -/
def loadConfig (s : Surroundings) : Option String → Session Config
  | none =>
      match Config.standard.override s.seed s.level with
      | .ok c => pure c
      | .error fault => fail fault.message none
  | some path =>
      let (contents, reason) := match s.contents path with
        | .ok text => (some text, "")
        | .error reason => (none, reason)
      match Config.ofFile contents s.seed s.level with
      | .ok c => pure c
      | .error fault =>
          fail ("failed to load config from " ++ path) (some (fault.message path reason))

end Session

/-- What a session comes to: its lines, and the code that it ends with. -/
structure Outcome where
  lines : List Line
  code : Nat
  deriving Repr, DecidableEq

namespace Outcome

/-- The outcome of a session.  A failure adds a line. -/
def ofSession (session : Session Unit) : Outcome :=
  match session.run.run [] with
  | (.ok _, lines) => ⟨lines, 0⟩
  | (.error failure, lines) => ⟨lines ++ [.err failure.text], 1⟩

/-- Lines as a text. -/
def textOf (lines : List String) : String := String.join (lines.map (· ++ "\n"))

/-- All that is written to the standard output. -/
def stdout (o : Outcome) : String :=
  textOf (o.lines.filterMap fun | .out text => some text | _ => none)

/-- All that is written to the error output. -/
def stderr (o : Outcome) : String :=
  textOf (o.lines.filterMap fun | .err text => some text | _ => none)

end Outcome

end Vivarium.CommandLine
