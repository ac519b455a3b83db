import TableClasses.Json.Reader
import TableClasses.Path
import TableClasses.Report.Error
import TableClasses.Text.Case
import TableClasses.Toml.Reader

/-!
# Document formats

Documents are JSON or TOML texts. The extension of a file name, in any case of ASCII letters, tells
which.
-/

namespace TableClasses.Schema

inductive Format where
  | json
  | toml
  deriving DecidableEq, Repr

namespace Format

def name : Format → String
  | json => "json"
  | toml => "toml"

/-- The format of the file at a path. -/
def ofPath (path : String) : Except LoadFault Format :=
  match (Path.extension? path).map Text.asciiLower with
  | some "json" => .ok json
  | some "toml" => .ok toml
  | _ => .error (.unknownFormat path)

/-- The document that a text holds. -/
def parse? (f : Format) (text : String) : Option Json :=
  match f with
  | json => Json.parse? text
  | toml => (Toml.parse? text).bind fun es => Toml.toJson? (.table es)

end Format

end TableClasses.Schema
