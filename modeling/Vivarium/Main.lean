import Std.Time
import Vivarium.CommandLine.Command

/-!
# The program

The outer layer of the program: it reads the files that a command line names,
the environment, the clock and some random bytes, and does what the outcome of
the command line says.

Main definitions:

* `surroundings`: what the world is like;
* `main`: the program.
-/

namespace Vivarium

open CommandLine

/-- Why the system refuses to read a file, with the number of its reason. -/
def refusal : IO.Error → String
  | .noFileOrDirectory _ _ _ => "No such file or directory (os error 2)"
  | .permissionDenied _ _ _ => "Permission denied (os error 13)"
  | .inappropriateType _ _ _ => "Is a directory (os error 21)"
  | other => toString other

/-- The contents of a file, or why there are none. -/
def contentsOf (path : String) : IO (Except String String) := do
  try
    let bytes ← IO.FS.readBinFile path
    return match String.fromUTF8? bytes with
      | some text => .ok text
      | none => .error "stream did not contain valid UTF-8"
  catch refused => return .error (refusal refused)

/-- The number of a sequence of bytes. -/
def bytesValue (bytes : ByteArray) : Nat :=
  bytes.toList.foldl (fun n byte => n * 256 + byte.toNat) 0

/-- Ids that follow from random bytes. -/
def supplyOf (bytes : ByteArray) : IdSupply :=
  let digest (n : Nat) := Sha1.digest (bytes.toList ++ Sha1.bigEndian 8 n)
  ⟨fun n => Uuid.ofRandom (Uuid.ofBytes ((digest n).take 16)).bits.toNat, 0⟩

/-- What the world is like for the files that a command line names.  The clock is read once, and
taken to go on by a microsecond from one reading to the next. -/
def surroundings (paths : List String) : IO Surroundings := do
  let files ← paths.mapM fun path => return (path, ← contentsOf path)
  let clock ← Std.Time.Timestamp.now
  return {
    contents := fun path => (files.lookup path).getD (.error "not read")
    seed := ← IO.getEnv Config.seedVariable
    level := ← IO.getEnv Config.levelVariable
    clock := .every (Instant.ofNanos clock.toNanosecondsSinceUnixEpoch.val) 1000
    habitatSeed := bytesValue (← IO.getRandomBytes 8)
    nurserySeed := bytesValue (← IO.getRandomBytes 8)
    supply := supplyOf (← IO.getRandomBytes 16) }

/-- Does what a line says. -/
def act : Line → IO Unit
  | .out text => IO.println text
  | .err text => IO.eprintln text
  | .wait span => IO.sleep (UInt32.ofNat (span.totalNanos / 1000000))

/-- Does what the arguments ask for and gives the code to end with. -/
def runMain (arguments : List String) : IO UInt32 := do
  let paths := ((Invocation.parse? arguments).map Invocation.paths).getD []
  let outcome := perform (← surroundings paths) arguments
  outcome.lines.forM act
  return UInt32.ofNat outcome.code

end Vivarium

/-- The program. -/
def main (arguments : List String) : IO UInt32 := Vivarium.runMain arguments
