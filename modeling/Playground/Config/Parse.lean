import Playground.Config.Error
import Playground.Config.Json
import Playground.Config.Toml.Document

/-!
# From text to a configuration

* `Format.settings?` — the settings of a text.
* `Config.ofText` — a whole configuration, which is valid.
-/

set_option autoImplicit false

namespace Playground.Config

/-- The notations that configurations are written in. -/
inductive Format where
  | toml
  | json
  deriving DecidableEq, Repr

namespace Format

/-- The settings of a text; none if the text breaks the rules of the notation. -/
def settings? (format : Format) (text : String) : Option (List (String × Setting)) :=
  let entries := match format with
    | toml => Toml.parse text
    | json => Json.parse text
  entries.map fun entries => (Setting.ofEntries entries).entries

/-- The ending of the names of files in a notation. -/
def ending : Format → String
  | toml => "toml"
  | json => "json"

/-- The notation of the files with an ending. -/
def ofEnding? (ending : String) : Option Format :=
  if ending = toml.ending then some toml
  else if ending = json.ending then some json
  else none

end Format

/-- The configuration that settings stand for, if it is a valid one. -/
def ofSettings (path : Option String) (settings : List (String × Setting)) :
    Except ConfigError Config :=
  match decode settings with
  | .error e => .error (.undecodable e path)
  | .ok config =>
    match config.validate with
    | .error v => .error (.invalid v)
    | .ok _ => .ok config

/-- The configuration that a text in a notation stands for; `path` names the file it is from. -/
def ofText (format : Format) (path : Option String) (text : String) : Except ConfigError Config :=
  match format.settings? text with
  | none => .error (.illFormed path)
  | some settings => ofSettings path settings

end Playground.Config
