import Vivarium.Record.Config
import Vivarium.Toml.Reader

/-!
# Configuration files

A configuration is read from a TOML document, overridden by the environment, and
checked, in this order.  The first step that fails decides.

Main definitions:

* `Config.ofToml?`: the configuration of a document;
* `Config.FileFault`: why a file gives no configuration;
* `Config.ofFile`: the configuration of a file in an environment.
-/

namespace Vivarium.Config

/-- The configuration of a document. -/
def ofToml? (text : String) : Option Config := Toml.parse? text >>= Record.readIn? .toml

/-- Why a file gives no configuration. -/
inductive FileFault where
  | unreadable
  | malformed
  | invalid (fault : Fault)
  deriving Repr, DecidableEq

/-- The complaint about a file, which names the file and why it cannot be read. -/
def FileFault.message (path reason : String) : FileFault → String
  | .unreadable => "IO error reading config file: " ++ path ++ ": " ++ reason
  | .malformed => "Configuration parsing error: TOML parse error"
  | .invalid fault => fault.message

/-- The configuration of a file with the given contents, overridden by the seed
and the level that the environment sets. -/
def ofFile (contents seed level : Option String) : Except FileFault Config :=
  match contents with
  | none => .error .unreadable
  | some text =>
      match ofToml? text with
      | none => .error .malformed
      | some c => ((c.override seed level).bind checked).mapError .invalid

end Vivarium.Config
