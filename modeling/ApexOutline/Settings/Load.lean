import ApexOutline.Problem
import ApexOutline.Toml.Settings
import ApexOutline.Yaml.Settings
/-!
# Configuration files

A configuration file is written in TOML or YAML, which its extension tells. It is read before its
extension is looked at.
-/

namespace ApexOutline

open Text

/-- The formats of configuration files. -/
inductive Settings.Format where
  | toml
  | yaml
  deriving DecidableEq, Repr

namespace Settings

/-- The format that an extension stands for, in lowercase. -/
def Format.ofExtension? (extension : Text) : Option Format :=
  if extension = "toml".toList then some .toml
  else if extension = "yaml".toList || extension = "yml".toList then some .yaml
  else none

/-- The settings that a text in some format gives. -/
def ofText? (format : Format) (source : Text) : Option Settings :=
  match format with
  | .toml => ofToml? source
  | .yaml => ofYaml? source

/-- The problem with a file that is not in its format. -/
def Format.invalid (format : Format) (path : Path) : Problem :=
  match format with
  | .toml => .invalidToml path
  | .yaml => .invalidYaml path

/-- Loads the settings of a configuration file. -/
def load (tree : FileTree) (path : Path) : Except Problem Settings := do
  let source ← tree.readText path
  let extension := lowerAscii (path.extension?.getD [])
  match Format.ofExtension? extension with
  | none => .error (.unsupportedFormat extension path)
  | some format =>
    match ofText? format source with
    | some settings => return settings
    | none => .error (format.invalid path)

end Settings

end ApexOutline
