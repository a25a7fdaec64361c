import PriorArt.Config.Check
import PriorArt.Toml.Reader

/-!
# Loading configurations

A configuration is written in TOML.
-/

namespace PriorArt

/-- Why there is no configuration: its file cannot be read, its text says none, or it has a
defect. -/
inductive ConfigError where
  | unreadable
  | unparsable
  | invalid (defect : ConfigDefect)
  deriving DecidableEq

namespace Config

def ofDocument (document : Json) : Except ConfigError Config :=
  match ofDocument? document with
  | none => .error .unparsable
  | some written =>
    let config := written.normalize
    match config.defect? with
    | some defect => .error (.invalid defect)
    | none => .ok config

/-- The configuration that the text of a file says, if the file can be read. -/
def load : Option String → Except ConfigError Config
  | none => .error .unreadable
  | some text =>
    match Toml.read? text with
    | none => .error .unparsable
    | some document => ofDocument document

end Config

end PriorArt
